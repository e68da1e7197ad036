import BeanRules.Proofs.ByName
import BeanRules.Proofs.Verdict

/-!
What a catalog knows after some kinds were registered. Each name stands for the kind of that name
that was registered last, and a registration is noticed by nothing that is about another kind.
-/
namespace BeanRules

namespace Kind

def declareAll (k : Kind) (specs : List AttrSpec) : Kind :=
  specs.foldl
    (fun k spec => if spec.required then k.required spec.name spec.type
      else k.optional spec.name spec.type) k

theorem declareAll_eq (k : Kind) (specs : List AttrSpec) :
    k.declareAll specs = ⟨k.name, k.attributes ++ specs⟩ := by
  unfold declareAll
  induction specs generalizing k with
  | nil => rw [List.foldl_nil, List.append_nil]
  | cons spec rest ih =>
    obtain ⟨name, type, required⟩ := spec
    rw [List.foldl_cons, ih]
    cases required <;> simp [Kind.required, optional, withSpec]

end Kind

namespace Catalog

def registerAll (c : Catalog) (kinds : List Kind) : Catalog := kinds.foldl register c

variable {c : Catalog} {k : Kind} {n : String}

theorem find?_registerAll_eq_some_iff {kinds : List Kind} :
    (c.registerAll kinds).find? n = some k ↔
      IsLastNamed Kind.name kinds n k ∨ (∀ l ∈ kinds, l.name ≠ n) ∧ c.find? n = some k :=
  ByName.find?_foldl_insert_eq_some_iff

theorem resolve_eq_error_iff {r : Refusal} :
    c.resolve n = .error r ↔ c.contains n = false ∧ r = .unsupportedKind n := by
  unfold resolve ByName.contains
  cases c.find? n <;> simp [eq_comm]

theorem find?_register_of_ne (c : Catalog) (h : k.name ≠ n) :
    (c.register k).find? n = c.find? n := by
  unfold register
  rw [ByName.find?_insert, if_neg h]

/-- A check asks the catalog for the kind of the constraint and for nothing else. -/
theorem check_congr {c d : Catalog} {x : Constraint} (h : c.find? x.kind = d.find? x.kind)
    (p : Policy) : c.check p x = d.check p x := by
  have hresolve : c.resolve x.kind = d.resolve x.kind := by
    unfold resolve
    rw [h]
  unfold check
  rw [hresolve]

theorem find?_builtin_eq_some_iff :
    builtin.find? n = some k ↔ ∃ b : Builtin, b.kind = k ∧ b.name = n := by
  constructor
  · intro h
    rcases find?_registerAll_eq_some_iff.mp h with hlast | ⟨-, hempty⟩
    · obtain ⟨before, after, hsplit, hname, -⟩ := hlast
      have hmem : k ∈ Builtin.all.map Builtin.kind := by simp [hsplit]
      obtain ⟨b, -, rfl⟩ := List.mem_map.mp hmem
      exact ⟨b, rfl, b.kind_name ▸ hname⟩
    · cases hempty
  · rintro ⟨b, rfl, rfl⟩
    cases b <;> rfl

/-- How a catalog came about does not matter to what can be asked of it: a look-up, a resolution and
a test for a name agree, and a listing has the names in the order of their bytes. -/
structure Answers (c : Catalog) : Prop where
  named : ∀ n k, c.find? n = some k → k.name = n
  contains : ∀ n, c.contains n = true ↔ ∃ k, c.find? n = some k
  resolves : ∀ n k, c.resolve n = .ok k ↔ c.find? n = some k
  refuses : ∀ n r, c.resolve n = .error r ↔ c.contains n = false ∧ r = .unsupportedKind n
  ascending : (c.names.map Text.utf8).Pairwise (· < ·)
  lists : ∀ n, n ∈ c.names ↔ c.contains n = true

theorem answers (c : Catalog) : c.Answers where
  named _ _ := ByName.name_of_find?
  contains _ := ByName.contains_iff
  resolves _ _ := resolve_eq_ok_iff
  refuses _ _ := resolve_eq_error_iff
  ascending := List.pairwise_map.mpr (c.names_ascending.imp Text.utf8_lt_iff.mpr)
  lists _ := ByName.mem_names_iff

/-- A catalog that was started with nothing or with the built-in kinds, and in which kinds were then
registered: a name stands for the last kind registered under it, attributes as they were declared,
or for what it stood for at the start; look-ups agree with each other and with the listing; a further
registration changes nothing that is about other names, and registrations of different names may be
made in any order. -/
theorem registrations_kept (start : Catalog) (kinds : List Kind) :
    let c := start.registerAll kinds
    c.Answers ∧
      (∀ n k, c.find? n = some k ↔
        IsLastNamed Kind.name kinds n k ∨ (∀ l ∈ kinds, l.name ≠ n) ∧ start.find? n = some k) ∧
      (∀ before n specs after, kinds = before ++ (Kind.bare n).declareAll specs :: after →
        (∀ l ∈ after, l.name ≠ n) → c.find? n = some ⟨n, specs⟩) ∧
      (∀ n, (ByName.empty : Catalog).find? n = none) ∧
      (∀ n k, builtin.find? n = some k ↔ ∃ b : Builtin, b.kind = k ∧ b.name = n) ∧
      (∀ k n, k.name ≠ n → (c.register k).find? n = c.find? n ∧
        ∀ p x, x.kind = n → (c.register k).check p x = c.check p x) ∧
      (∀ k l, k.name ≠ l.name → (c.register k).register l = (c.register l).register k) ∧
      ∀ kinds', kinds.Perm kinds' → (kinds.map Kind.name).Nodup → start.registerAll kinds' = c := by
  intro c
  refine ⟨c.answers, fun n k => find?_registerAll_eq_some_iff, ?_, ByName.find?_empty,
    fun n k => find?_builtin_eq_some_iff, ?_, ?_, ?_⟩
  · intro before n specs after hsplit hafter
    rw [Kind.declareAll_eq] at hsplit
    exact find?_registerAll_eq_some_iff.mpr (.inl ⟨before, after, hsplit, rfl, hafter⟩)
  · intro k n hne
    refine ⟨find?_register_of_ne c hne, ?_⟩
    rintro p x rfl
    exact check_congr (find?_register_of_ne c hne) p
  · intro k l hne
    exact c.insert_comm hne
  · intro kinds' hperm distinct
    exact (ByName.foldl_insert_perm hperm distinct start).symm

def zoneSpecs : List AttrSpec := [⟨"code", .string, true⟩, ⟨"code", .int, false⟩]

/-- A kind that is registered twice, and in between one whose name differs only in a capital. -/
def zones : List Kind :=
  [(Kind.bare "Zone").required "name" .string, .bare "zone", (Kind.bare "Zone").declareAll zoneSpecs]

theorem registrations_kept_zones :
    let c := builtin.registerAll zones
    let count := (Constraint.bare "Min").withAttr "value" (.int 3)
    c.find? "Zone" = some ⟨"Zone", zoneSpecs⟩ ∧ c.find? "zone" = some ⟨"zone", []⟩ ∧
      c.find? "Min" = some Builtin.min.kind ∧
      (c.register (.bare "Max")).check .strict count = c.check .strict count ∧
      (c.register (.bare "Max")).register (.bare "min") =
        (c.register (.bare "min")).register (.bare "Max") ∧
      builtin.registerAll [zones[1], zones[2]] = builtin.registerAll [zones[2], zones[1]] := by
  intro c count
  obtain ⟨-, hfind, hlast, -, hbuiltin, hframe, hcomm, -⟩ := registrations_kept builtin zones
  obtain ⟨-, -, -, -, -, -, -, hperm⟩ := registrations_kept builtin [zones[2], zones[1]]
  refine ⟨hlast (zones.take 2) "Zone" zoneSpecs [] rfl (List.forall_mem_nil _),
    hlast (zones.take 1) "zone" [] (zones.drop 2) rfl (by decide), ?_,
    (hframe (.bare "Max") "Min" (by decide)).2 .strict count rfl,
    hcomm (.bare "Max") (.bare "min") (by decide), ?_⟩
  · exact (hfind "Min" _).mpr (.inr ⟨by decide, (hbuiltin "Min" _).mpr ⟨.min, rfl, rfl⟩⟩)
  · exact hperm [zones[1], zones[2]] (.swap _ _ _) (by decide)

end Catalog

end BeanRules
