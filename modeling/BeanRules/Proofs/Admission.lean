import BeanRules.Proofs.Check
import BeanRules.Proofs.Freeze
import BeanRules.Proofs.Outcome
import Mathlib.Data.List.Induction

/-!
No constraint gets into a registry unless the catalog admits it at that moment, whichever way it is
declared and however kinds are registered in between. A later registration takes that away only if
it is of the same kind.
-/
namespace BeanRules

/-- What a caller may do with a session: register a kind, or make a call. -/
inductive Request where
  | register (k : Kind)
  | call (c : Call)

namespace Session

def serve (s : Session) : Request → Session
  | .register k => s.registerKind k
  | .call c => (s.step c).1

def serveAll (s : Session) (requests : List Request) : Session := requests.foldl serve s

theorem serveAll_append_cons (s : Session) (before : List Request) (q : Request)
    (after : List Request) :
    s.serveAll (before ++ q :: after) = ((s.serveAll before).serve q).serveAll after := by
  unfold serveAll
  rw [List.foldl_append, List.foldl_cons]

theorem serveAll_append_singleton (s : Session) (requests : List Request) (q : Request) :
    s.serveAll (requests ++ [q]) = (s.serveAll requests).serve q :=
  serveAll_append_cons s requests q []

theorem policy_serveAll (s : Session) (requests : List Request) :
    (s.serveAll requests).registry.policy = s.registry.policy := by
  induction requests using List.reverseRecOn with
  | nil => rfl
  | append_singleton requests q ih =>
    rw [serveAll_append_singleton, ← ih]
    cases q with
    | register k => rfl
    | call c => exact policy_step _ c

/-- Only a registration of the same kind changes what a name stands for. -/
theorem find?_catalog_serveAll (s : Session) (requests : List Request) (kind : String)
    (h : ∀ k, .register k ∈ requests → k.name ≠ kind) :
    (s.serveAll requests).registry.catalog.find? kind = s.registry.catalog.find? kind := by
  induction requests using List.reverseRecOn with
  | nil => rfl
  | append_singleton requests q ih =>
    rw [serveAll_append_singleton, ← ih fun k hk => h k (List.mem_append_left _ hk)]
    cases q with
    | register k =>
      have hne : k.name ≠ kind := h k (by simp)
      have hinsert := ByName.find?_insert (s.serveAll requests).registry.catalog k kind
      rwa [if_neg hne] at hinsert
    | call c => exact congrArg (·.find? kind) (catalog_step _ c)

theorem declarations_serve (s : Session) (q : Request) :
    (s.serve q).registry.declarations = s.registry.declarations ∨
      ∃ d, (s.serve q).registry.declarations = s.registry.declarations ++ [d] ∧
        ∀ l x, d = .constraint l x → s.registry.catalog.Admits s.registry.policy x := by
  cases q with
  | register k => exact .inl rfl
  | call c =>
    have hstep := s.declarations_step c
    split at hstep
    · obtain ⟨d, happends, hpasses⟩ := hstep
      exact .inr ⟨d, happends, fun l x hd => Catalog.check_eq_ok_iff.mp (hpasses l x hd)⟩
    · exact .inl hstep

theorem catalog_serve_of_declares {s : Session} {q : Request} {d : Declaration}
    (h : (s.serve q).registry.declarations = s.registry.declarations ++ [d]) :
    (s.serve q).registry.catalog = s.registry.catalog := by
  cases q with
  | register k =>
    have hkeeps : (s.serve (.register k)).registry.declarations = s.registry.declarations := rfl
    rw [hkeeps] at h
    simp at h
  | call c => exact catalog_step s c

/-- A request that declares a constraint, after the requests before it: the catalog of that moment
admits it, and what was declared earlier stays in front of it. -/
structure DeclaredBy (s : Session) (before : List Request) (q : Request)
    (earlier : List Declaration) (l : Location) (c : Constraint) : Prop where
  declarations : (s.serveAll before).registry.declarations = earlier
  appends : ((s.serveAll before).serve q).registry.declarations = earlier ++ [.constraint l c]
  admits : (s.serveAll before).registry.catalog.Admits s.registry.policy c

theorem exists_declaredBy {s : Session} (start : s.registry.declarations = [])
    {requests : List Request} {l : Location} {c : Constraint}
    {earlier later : List Declaration}
    (h : (s.serveAll requests).registry.declarations = earlier ++ .constraint l c :: later) :
    ∃ before q after, requests = before ++ q :: after ∧ s.DeclaredBy before q earlier l c := by
  induction requests using List.reverseRecOn generalizing later with
  | nil =>
    have hnil : (s.serveAll []).registry.declarations = [] := start
    rw [hnil] at h
    cases earlier <;> cases h
  | append_singleton requests q ih =>
    -- Either the constraint was there before the last request, or it is what that one appended.
    have extend {later : List Declaration}
        (h : (s.serveAll requests).registry.declarations =
          earlier ++ .constraint l c :: later) :
        ∃ before q' after, requests ++ [q] = before ++ q' :: after ∧
          s.DeclaredBy before q' earlier l c := by
      obtain ⟨before, q', after, hrequests, hdeclared⟩ := ih h
      exact ⟨before, q', after ++ [q], by rw [hrequests]; simp, hdeclared⟩
    rw [serveAll_append_singleton] at h
    rcases (s.serveAll requests).declarations_serve q with hkeeps | ⟨d, happends, hadmits⟩
    · rw [hkeeps] at h
      exact extend h
    · rw [happends] at h
      rcases List.eq_nil_or_concat later with rfl | ⟨later, d', rfl⟩
      · obtain ⟨hearlier, hd⟩ := List.append_inj' h rfl
        refine ⟨requests, q, [], rfl, hearlier, ?_, ?_⟩
        · rw [happends, hearlier, hd]
        · rw [← policy_serveAll s requests]
          exact hadmits l c (List.singleton_inj.mp hd)
      · have hsplit : earlier ++ .constraint l c :: later.concat d' =
            (earlier ++ .constraint l c :: later) ++ [d'] := by simp
        rw [hsplit] at h
        exact extend (List.append_inj' h rfl).1

theorem DeclaredBy.find?_catalog {s : Session} {before : List Request} {q : Request}
    {earlier : List Declaration} {l : Location} {c : Constraint}
    (h : s.DeclaredBy before q earlier l c) {after : List Request} {kind : String}
    (hkinds : ∀ k, .register k ∈ after → k.name ≠ kind) :
    (s.serveAll (before ++ q :: after)).registry.catalog.find? kind =
      (s.serveAll before).registry.catalog.find? kind := by
  have happends := h.appends
  rw [← h.declarations] at happends
  rw [serveAll_append_cons, find?_catalog_serveAll _ after kind hkinds,
    catalog_serve_of_declares happends]

/-- Whatever is requested of a session, in whichever order, each constraint that it holds was
admitted by the catalog of the moment at which it was declared, and the catalog still admits it
unless its kind has been registered anew since. A mapping holds the same declarations. -/
theorem constraint_admitted (p : Policy) (catalog : Catalog) (requests : List Request) :
    let s := start (.empty p catalog)
    let r := (s.serveAll requests).registry
    (∀ earlier l c later, r.declarations = earlier ++ .constraint l c :: later →
      ∃ before q after, requests = before ++ q :: after ∧
        s.DeclaredBy before q earlier l c ∧
        ((∀ k, .register k ∈ after → k.name ≠ c.kind) → r.catalog.Admits p c)) ∧
      ∀ m, r.freeze = .ok m → m.declarations = r.declarations := by
  intro s r
  constructor
  · intro earlier l c later h
    obtain ⟨before, q, after, hrequests, hdeclared⟩ := exists_declaredBy rfl h
    refine ⟨before, q, after, hrequests, hdeclared, fun hkinds => ?_⟩
    have hcatalog := hdeclared.find?_catalog hkinds
    rw [← hrequests] at hcatalog
    have hadmits := hdeclared.admits
    unfold Catalog.Admits at hadmits ⊢
    rw [hcatalog]
    exact hadmits
  · intro m hm
    exact Registry.declarations_of_freeze hm

def registering : List Request :=
  let order : TypeRef := ⟨"shop::Order", 0⟩
  [.call (.root order "order"), .call (.generic "order" "even" "Even"),
    .register ((Kind.bare "Odd").required "below" .int),
    .call (.edit "even" "even" (.param "below" (.int 10))), .call (.done "even")]

theorem constraint_admitted_registering :
    let catalog := Catalog.builtin.register ((Kind.bare "Even").required "below" .int)
    let r := ((start (.empty .strict catalog)).serveAll registering).registry
    ∃ l c m, r.declarations = [.constraint l c] ∧ r.catalog.Admits .strict c ∧
      r.freeze = .ok m ∧ m.declarations = [.constraint l c] := by
  intro catalog r
  obtain ⟨hadmits, hmapping⟩ := constraint_admitted .strict catalog registering
  have hdeclarations : r.declarations = [] ++ .constraint (.bean ⟨"shop::Order", 0⟩)
      ((Constraint.bare "Even").withAttr "below" (.int 10)) :: [] := rfl
  have hfreeze : r.freeze = .ok (.ofDeclarations r.declarations r.sequences) := rfl
  obtain ⟨before, q, after, hrequests, -, hlater⟩ := hadmits _ _ _ _ hdeclarations
  refine ⟨_, _, _, hdeclarations, hlater ?_, hfreeze, hmapping _ hfreeze⟩
  intro k hk
  have hmem : .register k ∈ registering := by
    rw [hrequests]
    simp [hk]
  simp only [registering, List.mem_cons, Request.register.injEq, reduceCtorEq, false_or,
    List.not_mem_nil, or_false] at hmem
  rw [hmem]
  decide

end Session

end BeanRules
