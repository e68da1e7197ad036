import BeanRules.Proofs.Journal
import BeanRules.Proofs.Success

/-!
A session and the journal of its calls agree on what each name stands for, and every declaration
is accounted for. The invariant is `Tracks`; it needs that no two names share a draft, since
otherwise an edit under one name would change what is held under the other.
-/
namespace BeanRules

namespace Session

def succeeding (s : Session) : List Call → List Call
  | [] => []
  | c :: rest =>
    if (s.step c).2.isOk then c :: (s.step c).1.succeeding rest else (s.step c).1.succeeding rest

def journal (s : Session) (script : List Call) : Journal := .ofCalls (s.succeeding script)

end Session

namespace Journal

structure Tracks (j : Journal) (s : Session) : Prop where
  stands : ∀ {name x}, s.handle? name = some x →
    ∃ y, j.held name = some y ∧ Stands j.entries x y
  apart : ∀ {name other x x' n}, s.handle? name = some x → s.handle? other = some x' →
    j.held name = some (.draft n) → j.held other = some (.draft n) → name = other
  grounded : Grounded j.entries
  accounts : Accounts j.entries s.registry.declarations

theorem tracks_start (p : Policy) (catalog : Catalog) :
    start.Tracks (.start (.empty p catalog)) where
  stands h := by cases h
  apart h := by cases h
  grounded e he := by cases he
  accounts := .nil

namespace Tracks

variable {j : Journal} {s t : Session} {on as : String} {l : Location}

theorem cursor (h : j.Tracks s) (held : s.handle? on = some (.cursor l)) :
    j.held on = some (.cursor l) := by
  obtain ⟨y, hy, hstands⟩ := h.stands held
  cases hstands
  exact hy

theorem draft (h : j.Tracks s) {d : Draft} (held : s.handle? on = some (.draft d)) :
    ∃ n, j.held on = some (.draft n) ∧ IsOpen j.entries n d := by
  obtain ⟨y, hy, hstands⟩ := h.stands held
  cases hstands with
  | draft isOpen => exact ⟨_, hy, isOpen⟩

/-- Names may be given up, and the log and the sequences do not matter. -/
theorem weaken (h : j.Tracks s)
    (handles : ∀ name x, t.handle? name = some x → s.handle? name = some x)
    (declarations : t.registry.declarations = s.registry.declarations) : j.Tracks t where
  stands hname := h.stands (handles _ _ hname)
  apart hname hother := h.apart (handles _ _ hname) (handles _ _ hother)
  grounded := h.grounded
  accounts := declarations ▸ h.accounts

theorem drop (h : j.Tracks s) (on : String) : j.Tracks (s.drop on) := by
  refine h.weaken (fun name x hx => ?_) rfl
  rw [Session.handle?_drop] at hx
  split at hx
  · cases hx
  · exact hx

theorem logged (h : j.Tracks s) (e : Option Event) : j.Tracks (s.logged e) := by
  refine h.weaken (fun name x hx => ?_) ?_
  · rwa [Session.handle?_logged] at hx
  · rw [Session.registry_logged]

theorem withGroups (h : j.Tracks s) (bean : TypeRef) (groups : List TypeRef) :
    j.Tracks (s.withGroups bean groups) :=
  h.weaken (fun _ _ hx => hx) rfl

theorem put (h : j.Tracks s) (as : String) {x : Handle} {y : Held} (stands : Stands j.entries x y)
    (unheld : ∀ n, y = .draft n → ∀ name x, s.handle? name = some x →
      j.held name ≠ some (.draft n)) :
    (j.hold as y).Tracks (s.put as x) where
  stands {name x'} hname := by
    rw [Session.handle?_put] at hname
    rw [held_hold]
    split at hname
    · rename_i has
      rw [if_pos has]
      cases hname
      exact ⟨y, rfl, stands⟩
    · rename_i has
      rw [if_neg has]
      exact h.stands hname
  apart {name other x₁ x₂ n} hname hother hn hn' := by
    rw [Session.handle?_put] at hname hother
    rw [held_hold] at hn hn'
    by_cases has : as = name <;> by_cases has' : as = other
    · rw [← has, ← has']
    · rw [if_pos has] at hn
      rw [if_neg has'] at hother hn'
      exact absurd hn' (unheld n (Option.some.inj hn) other x₂ hother)
    · rw [if_pos has'] at hn'
      rw [if_neg has] at hname hn
      exact absurd hn (unheld n (Option.some.inj hn') name x₁ hname)
    · rw [if_neg has] at hname hn
      rw [if_neg has'] at hother hn'
      exact h.apart hname hother hn hn'
  grounded := h.grounded
  accounts := h.accounts

theorem putCursor (h : j.Tracks s) (as : String) (l : Location) :
    (j.hold as (.cursor l)).Tracks (s.put as (.cursor l)) :=
  h.put as (.cursor l) fun _ => nofun

theorem write (h : j.Tracks s) {e : Entry} (declarations : List Declaration)
    (unheld : ∀ n, e.draft? = some n → ∀ name x, s.handle? name = some x →
      j.held name ≠ some (.draft n))
    (grounded : ∀ n, e.draft? = some n → n < j.entries.length)
    (accounts : Accounts (j.entries ++ [e]) (s.registry.declarations ++ declarations))
    (handles : ∀ name, t.handle? name = s.handle? name)
    (appends : t.registry.declarations = s.registry.declarations ++ declarations) :
    (j.write e).Tracks t where
  stands {name x} hname := by
    rw [handles] at hname
    obtain ⟨y, hy, hstands⟩ := h.stands hname
    refine ⟨y, hy, hstands.append ?_⟩
    rintro n rfl he
    exact unheld n he name x hname hy
  apart hname hother := by
    rw [handles] at hname hother
    exact h.apart hname hother
  grounded := h.grounded.append grounded
  accounts := by
    rw [appends]
    exact accounts

theorem begin (h : j.Tracks s) (held : s.handle? on = some (.cursor l)) (as kind : String)
    (setters : Option Builtin) :
    (j.begin on as kind).Tracks (s.put as (.draft ⟨l, .bare kind, setters⟩)) := by
  unfold Journal.begin
  rw [h.cursor held]
  have begun : (j.write (.begun l kind)).Tracks s := by
    refine h.write [] (fun _ => nofun) (fun _ => nofun) ?_ (fun _ => rfl) ?_
    · rw [List.append_nil]
      exact h.accounts.silent rfl fun _ _ _ => nofun
    · rw [List.append_nil]
  refine begun.put as (.draft (h.grounded.isOpen_begun l kind setters)) ?_
  -- The number of the new draft lies past all entries, so no name can hold it yet.
  rintro n ⟨⟩ name x hname hheld
  obtain ⟨y, hy, hstands⟩ := h.stands hname
  cases hy.symm.trans hheld
  cases hstands with
  | draft isOpen => exact Nat.lt_irrefl _ isOpen.lt

theorem unheld_drop (h : j.Tracks s) {d : Draft} {n : Nat}
    (held : s.handle? on = some (.draft d)) (hn : j.held on = some (.draft n)) (name : String)
    (x : Handle) (hname : (s.drop on).handle? name = some x) :
    j.held name ≠ some (.draft n) := by
  intro hheld
  rw [Session.handle?_drop] at hname
  split at hname
  · cases hname
  · rename_i hne
    exact hne (h.apart held hname hn hheld)

/-- The draft moves on to its new name, and nothing that was declared depends on it yet. -/
theorem edit (h : j.Tracks s) {d : Draft} (held : s.handle? on = some (.draft d)) (as : String)
    (e : Edit) : (j.edit on as e).Tracks ((s.drop on).put as (.draft (d.edit e))) := by
  obtain ⟨n, hn, isOpen⟩ := h.draft held
  unfold Journal.edit
  rw [hn]
  have edited : (j.write (.edited n e)).Tracks (s.drop on) := by
    refine (h.drop on).write [] ?_ ?_ ?_ (fun _ => rfl) ?_
    · rintro m ⟨⟩
      exact h.unheld_drop held hn
    · rintro m ⟨⟩
      exact isOpen.lt
    · rw [List.append_nil]
      refine h.accounts.silent rfl ?_
      rintro m hm edit ⟨⟩
      exact isOpen.open_ hm
    · rw [List.append_nil]
  refine edited.put as (.draft (isOpen.edit e)) ?_
  rintro m ⟨⟩
  exact h.unheld_drop held hn

theorem complete (h : j.Tracks s) {d : Draft} (held : s.handle? on = some (.draft d)) :
    (j.follow (.done on)).Tracks
      ((s.drop on).record (.constraint d.location d.constraint)) := by
  obtain ⟨n, hn, isOpen⟩ := h.draft held
  simp only [follow, hn]
  refine (h.drop on).write [.constraint d.location d.constraint] ?_ ?_ ?_ ?_ rfl
  · rintro m ⟨⟩
    exact h.unheld_drop held hn
  · rintro m ⟨⟩
    exact isOpen.lt
  · refine h.accounts.declare rfl (.constraint (getElem?_append_of_begun isOpen.begun) ?_)
    rw [editsOf_append_completed]
    exact isOpen.holds
  · intro name
    exact Session.handle?_record _ _ _

theorem cascade (h : j.Tracks s) (held : s.handle? on = some (.cursor l)) :
    (j.follow (.valid on)).Tracks (s.record (.cascade l)) := by
  simp only [follow, h.cursor held]
  refine h.write [.cascade l] (fun _ => nofun) (fun _ => nofun) ?_ ?_ rfl
  · exact h.accounts.declare rfl (.cascade l)
  · intro name
    exact Session.handle?_record _ _ _

theorem move (h : j.Tracks s) {m : Move} {l' : Location}
    (held : s.handle? on = some (.cursor l)) (leads : l.move? s.registry.policy m = some (.ok l'))
    (as : String) : (j.follow (.move on as m)).Tracks (s.put as (.cursor l')) := by
  simp only [follow, h.cursor held, Location.destination?_of_move? leads]
  exact h.putCursor as l'

theorem outcome (h : j.Tracks s) {c : Call} {r : Except Failure Reply}
    (fluent : c.isFluent = true) (happens : Session.Outcome s c t r) :
    (if r.isOk then j.follow c else j).Tracks t := by
  cases happens with
  | failed => exact h
  | rooted bean as => exact h.putCursor as _
  | moved held leads => exact (h.move held leads _).logged _
  | begun begins held known =>
    simp only [Except.isOk, Except.toBool, if_true, follow_begins begins]
    exact h.begin held _ _ _
  | edited edits held =>
    simp only [Except.isOk, Except.toBool, if_true, follow_edits edits]
    exact h.edit held _ _
  | completed held passes => exact h.complete held
  | refused held fails => exact h.drop _
  | cascaded held inside => exact h.cascade held
  | sequenced held passes => exact h.withGroups _ _
  | constraintAdded | cascadeAdded | groupsSet => cases fluent

theorem run {script : List Call} (h : j.Tracks s) (fluent : ∀ c ∈ script, c.isFluent = true) :
    ((s.succeeding script).foldl follow j).Tracks (s.run script) := by
  induction script generalizing j s with
  | nil => exact h
  | cons c rest ih =>
    -- The journal goes on from the session that the call left, whether it follows the call or not.
    have hstep := h.outcome (fluent c List.mem_cons_self) (s.step_outcome c)
    have hrest := ih hstep fun c' hc' => fluent c' (List.mem_cons_of_mem c hc')
    rw [Session.run_cons]
    unfold Session.succeeding
    split at hrest
    · rename_i hok
      rw [if_pos hok]
      exact hrest
    · rename_i hok
      rw [if_neg hok]
      exact hrest

end Tracks

end Journal

namespace Session

/-- After any script of cursor and builder calls, the declarations are those that its journal
accounts for: a cascade for each cascade asked for, at the place of its cursor, and a constraint
for each draft completed, at the place it was begun at, of the kind it was begun for, and with what
was set on it last. A call succeeds just as `Succeeds` has it, so whatever a draft offers can be set
on it at any time; what it leads to is held under the name given for it, and names that it does not
mention stand for what they stood for. A call that declares something appends one declaration if it
succeeds, any other keeps them as they are, and one that fails keeps the whole registry and every
handle apart from a draft that was to be completed. -/
theorem declarations_accounted (p : Policy) (catalog : Catalog) (script : List Call)
    (fluent : ∀ c ∈ script, c.isFluent = true) :
    let s := start (.empty p catalog)
    let entries := (s.journal script).entries
    List.Forall₂ (Journal.Declares entries) (entries.filter Journal.Entry.declares)
        (s.run script).registry.declarations ∧
      ∀ before c after, script = before ++ c :: after →
        let t := s.run before
        (∀ r, (t.step c).2 = .ok r ↔ t.Succeeds c r) ∧
        (∀ x, (t.step c).2 = .ok (.handle x) →
          ∃ as, c.as? = some as ∧ (t.step c).1.handle? as = some x) ∧
        (∀ name, name ∉ c.names → (t.step c).1.handle? name = t.handle? name) ∧
        (if c.declares && (t.step c).2.isOk then
          ∃ d, (t.step c).1.registry.declarations = t.registry.declarations ++ [d]
        else (t.step c).1.registry.declarations = t.registry.declarations) ∧
        ∀ f, (t.step c).2 = .error f → (t.step c).1.registry = t.registry ∧
          ∀ name, c ≠ .done name → (t.step c).1.handle? name = t.handle? name := by
  intro s entries
  constructor
  · exact ((Journal.tracks_start p catalog).run fluent).accounts
  · rintro before c after rfl t
    have hfluent : ∀ c' ∈ before, c'.isFluent = true :=
      fun c' hc' => fluent c' (List.mem_append_left _ hc')
    have hplaced : t.WellPlaced := (wellPlaced_start p catalog).run fun c' hc' =>
      Call.location?_of_isFluent (hfluent c' hc')
    refine ⟨fun r => reply_eq_ok_iff hplaced (fluent c (by simp)), fun x => handle?_step_of_handed,
      fun name => handle?_step_of_not_mem, ?_, ?_⟩
    · have hstep := t.declarations_step c
      by_cases hdeclares : (c.declares && (t.step c).2.isOk) = true
      · rw [if_pos hdeclares] at hstep ⊢
        obtain ⟨d, happends, -⟩ := hstep
        exact ⟨d, happends⟩
      · rw [if_neg hdeclares] at hstep ⊢
        exact hstep
    · intro f hf
      exact ⟨registry_step_of_failed hf, fun name => handle?_step_of_failed hf⟩

/-- Two drafts that are begun before either is completed, one of which is handed on to another name,
and two calls that fail. -/
def interleaved : List Call :=
  let order : TypeRef := ⟨"shop::Order", 0⟩
  [.root order "order", .move "order" "code" (.property "code" .accessor),
    .move "order" "ship" (.method "ship" []), .constraint "code" "size" (.builtin .size),
    .constraint "ship" "present" (.builtin .notNull), .set "size" "size" "min" (.int 1),
    .move "ship" "ship" (.parameter 0), .done "present", .valid "code",
    .edit "size" "limits" (.message "too short"), .set "limits" "limits" "min" (.int 2),
    .edit "limits" "limits" (.payload [order]), .done "limits", .done "size"]

theorem declarations_accounted_interleaved :
    (∀ c ∈ interleaved, c.isFluent = true) ∧
      let s := start (.empty .strict .builtin)
      let entries := (s.journal interleaved).entries
      let declarations := (s.run interleaved).registry.declarations
      let code := Location.property ⟨"shop::Order", 0⟩ "code" .accessor
      let ship := Location.method ⟨⟨"shop::Order", 0⟩, "ship", [], by decide⟩ .returnValue
      List.Forall₂ (Journal.Declares entries) (entries.filter Journal.Entry.declares)
        declarations ∧
      (∃ present size,
        declarations = [.constraint ship present, .cascade code, .constraint code size] ∧
        present.kind = "NotNull" ∧ present.attributes.entries = [] ∧ present.message = none ∧
        size.kind = "Size" ∧ size.attributes.entries = [("min", .int 2)] ∧
        size.message = some "too short" ∧ size.payload = [⟨"shop::Order", 0⟩]) ∧
      let t := s.run (interleaved.take 10)
      ∃ d, t.handle? "limits" = some (.draft d) ∧ d.constraint.message = some "too short" ∧
        (t.step (.set "limits" "limits" "min" (.int 2))).2 =
          .ok (.handle (.draft (d.edit (.param "min" (.int 2))))) := by
  have fluent : ∀ c ∈ interleaved, c.isFluent = true := by decide
  obtain ⟨haccounts, hcalls⟩ := declarations_accounted .strict .builtin interleaved fluent
  obtain ⟨hsucceeds, -⟩ := hcalls (interleaved.take 10) (.set "limits" "limits" "min" (.int 2))
    (interleaved.drop 11) rfl
  refine ⟨fluent, haccounts, ⟨_, _, rfl, rfl, rfl, rfl, rfl, rfl, rfl, rfl⟩, _, rfl, rfl, ?_⟩
  exact (hsucceeds _).mpr (.set rfl rfl rfl)

end Session

end BeanRules
