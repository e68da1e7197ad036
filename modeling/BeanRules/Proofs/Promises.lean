import BeanRules.Proofs.Admission
import BeanRules.Proofs.Json.Path
import BeanRules.Proofs.Verdict

/-!
What the reader of an exported mapping can rely on. An attribute is written in the shape that its
declaration promises, with one exception: a number attribute takes NaNs and infinities, and in their
place stands null. Attributes for decimals do not take them.
-/
namespace BeanRules

theorem Attributes.follow?_json (a : Attributes) (name : String) :
    a.json.follow? (.member name) = (a.get? name).map Value.json := by
  have hmembers : a.json.follow? (.member name) =
      ((a.entries.map fun e => (e.1, e.2.json)).find? (·.1 == name)).map (·.2) := rfl
  rw [hmembers, List.find?_map, Option.map_map]
  unfold Attributes.get?
  rw [Option.map_map]
  rfl

theorem Constraint.follow?_json (c : Constraint) :
    c.json.follow? (.member "attributes") = some c.attributes.json := by
  simp [Constraint.json, Json.follow?]

namespace Mapping

def attributesPath (index : Nat) : List Json.Step :=
  [.member "declarations", .item index, .member "descriptor", .member "attributes"]

def attributePath (index : Nat) (name : String) : List Json.Step :=
  attributesPath index ++ [.member name]

def attributeText (name : String) (j : Json) : String :=
  String.ofList (Json.writeMember .indented 5 (name, j))

theorem at?_attributePath {m : Mapping} {index : Nat} {l : Location} {c : Constraint}
    (h : m.declarations[index]? = some (.constraint l c)) (name : String) :
    m.json.at? (attributePath index name) = (c.attributes.get? name).map Value.json := by
  have hdeclarations : m.json.follow? (.member "declarations") =
      some (.array (m.declarations.map Declaration.json)) := by simp [Mapping.json, Json.follow?]
  have hitem : (Json.array (m.declarations.map Declaration.json)).follow? (.item index) =
      some (Declaration.constraint l c).json := by simp [Json.follow?, h]
  have hdescriptor : (Declaration.constraint l c).json.follow? (.member "descriptor") =
      some c.json := by simp [Declaration.json, Declaration.body, Json.follow?]
  simp only [attributePath, attributesPath, List.cons_append, List.nil_append, Json.at?_cons,
    hdeclarations, hitem, hdescriptor, c.follow?_json, c.attributes.follow?_json, Option.bind_some]
  cases c.attributes.get? name <;> rfl

theorem attributeText_within {m : Mapping} {index : Nat} {name : String} {j : Json}
    (h : m.json.at? (attributePath index name) = some j) :
    (attributeText name j).toList <:+: m.json.pretty.toList := by
  unfold attributeText Json.pretty
  rw [String.toList_ofList, String.toList_ofList]
  exact Json.writeMember_within_of_at? .indented 0 h

end Mapping

namespace AttrType

/-- What a reader expects of an attribute. -/
inductive Promises : AttrType → Json → Prop
  | bool (b : Bool) : Promises .bool (.bool b)
  | int (n : Int) : Promises .int (.int n)
  | whole (n : Int) : Promises .number (.int n)
  | float {x : Decimal.Binary64} (finite : x.isFinite = true) : Promises .number (.float x)
  | string (s : String) : Promises .string (.string s)
  | regex (s : String) : Promises .regex (.string s)
  | decimal {s : String} (holds : Decimal.isDecimalText s = true) : Promises .decimal (.string s)
  | types (names : List String) : Promises .types (.strings names)

theorem Promises.ne_null {t : AttrType} {j : Json} (h : t.Promises j) : j ≠ .null := by
  rintro rfl
  cases h

theorem exists_jsons_eq_map {items : List Value} (h : ∀ i ∈ items, i.type?.isSome = true) :
    ∃ names : List String, Value.jsons items = names.map .string := by
  induction items with
  | nil => exact ⟨[], rfl⟩
  | cons i rest ih =>
    obtain ⟨hi, hrest⟩ := List.forall_mem_cons.mp h
    obtain ⟨names, hnames⟩ := ih hrest
    cases i with
    | type t => exact ⟨t.name :: names, by rw [Value.jsons, hnames]; rfl⟩
    | _ => cases hi

theorem promises_json_of_accepts {t : AttrType} {v : Value} (accepts : t.accepts v = true)
    (finite : ∀ x, v = .float x → x.isFinite = true) : t.Promises v.json := by
  cases v with
  | null | type =>
    cases t <;> cases accepts
  | bool b =>
    cases t with
    | bool => exact .bool b
    | _ => cases accepts
  | int n =>
    cases t with
    | int => exact .int n.toInt
    | number => exact .whole n.toInt
    | _ => cases accepts
  | float x =>
    cases t with
    | number =>
      rw [Value.json, if_pos (finite x rfl)]
      exact .float (finite x rfl)
    | _ => cases accepts
  | string s =>
    cases t with
    | string => exact .string s
    | regex => exact .regex s
    | decimal => exact .decimal accepts
    | _ => cases accepts
  | list items =>
    cases t with
    | types =>
      obtain ⟨names, hnames⟩ := exists_jsons_eq_map (List.all_eq_true.mp accepts)
      rw [Value.json, hnames]
      exact .types names
    | _ => cases accepts

theorem eq_number_of_accepts_float {t : AttrType} {x : Decimal.Binary64}
    (h : t.accepts (.float x) = true) : t = .number := by
  cases t with
  | number => rfl
  | _ => cases h

end AttrType

theorem Value.json_float_of_not_finite {x : Decimal.Binary64} (h : x.isFinite = false) :
    (Value.float x).json = .null := by
  rw [Value.json, h]
  rfl

theorem Kind.Admits.exists_declares {k : Kind} {p : Policy} {c : Constraint} (h : k.Admits p c)
    (strict : p.strictAttributes = true) {name : String} {v : Value}
    (held : c.attributes.get? name = some v) :
    ∃ spec, k.Declares name spec ∧ spec.type.accepts v = true := by
  have takes := h.takes name v held
  cases hspec : k.spec? name with
  | none =>
    have lax := (takes_iff_of_spec?_eq_none hspec).mp takes
    cases strict.symm.trans lax
  | some spec => exact ⟨spec, spec?_eq_some_iff.mp hspec, takes.typed spec hspec⟩

namespace Session

/-- Kinds are registered only as long as nothing is declared. -/
def RegistersFirst (s : Session) (requests : List Request) : Prop :=
  ∀ before k after, requests = before ++ .register k :: after →
    (s.serveAll before).registry.declarations = []

theorem declarations_serveAll_register (s : Session) (kinds : List Kind) :
    (s.serveAll (kinds.map .register)).registry.declarations = s.registry.declarations := by
  induction kinds using List.reverseRecOn with
  | nil => rfl
  | append_singleton kinds k ih =>
    rw [List.map_append, List.map_singleton, serveAll_append_singleton, ← ih]
    rfl

theorem registersFirst_of_calls {s : Session} (start : s.registry.declarations = [])
    (kinds : List Kind) (calls : List Call) :
    s.RegistersFirst (kinds.map .register ++ calls.map .call) := by
  intro before k after h
  rcases List.append_eq_append_iff.mp h with ⟨rest, -, hcalls⟩ | ⟨rest, hkinds, -⟩
  · have hmem : .register k ∈ calls.map Request.call := by simp [hcalls]
    simp at hmem
  · obtain ⟨first, -, -, rfl, -⟩ := List.map_eq_append_iff.mp hkinds
    rw [declarations_serveAll_register, start]

theorem declarations_prefix_serveAll (s : Session) (requests : List Request) :
    s.registry.declarations <+: (s.serveAll requests).registry.declarations := by
  induction requests using List.reverseRecOn with
  | nil => exact List.prefix_rfl
  | append_singleton requests q ih =>
    rw [serveAll_append_singleton]
    rcases (s.serveAll requests).declarations_serve q with hkeeps | ⟨d, happends, -⟩
    · rwa [hkeeps]
    · rw [happends]
      exact ih.trans (List.prefix_append _ _)

theorem RegistersFirst.register_not_mem {s : Session} {before after : List Request} {q : Request}
    {earlier : List Declaration} {l : Location} {c : Constraint}
    (h : s.RegistersFirst (before ++ q :: after)) (declared : s.DeclaredBy before q earlier l c)
    (k : Kind) : .register k ∉ after := by
  intro hk
  obtain ⟨between, rest, rfl⟩ := List.append_of_mem hk
  have hnone := h (before ++ q :: between) k rest (by simp)
  rw [serveAll_append_cons] at hnone
  have hprefix := declarations_prefix_serveAll ((s.serveAll before).serve q) between
  rw [hnone, declared.appends] at hprefix
  simp at hprefix

theorem RegistersFirst.exists_admits {s : Session} (start : s.registry.declarations = [])
    {requests : List Request} (h : s.RegistersFirst requests) {l : Location} {c : Constraint}
    (mem : .constraint l c ∈ (s.serveAll requests).registry.declarations) :
    (s.serveAll requests).registry.catalog.Admits s.registry.policy c := by
  obtain ⟨earlier, later, hsplit⟩ := List.append_of_mem mem
  obtain ⟨before, q, after, rfl, declared⟩ := exists_declaredBy start hsplit
  have hcatalog : (s.serveAll (before ++ q :: after)).registry.catalog.find? c.kind =
      (s.serveAll before).registry.catalog.find? c.kind :=
    declared.find?_catalog fun k hk => absurd hk (h.register_not_mem declared k)
  have admits := declared.admits
  unfold Catalog.Admits at admits ⊢
  rwa [hcatalog]

/-- What becomes of an attribute that was accepted: where a reader looks for it stands what the
first declaration of the attribute promises, or null for a number that is not finite. -/
theorem attributes_exported (p : Policy) (catalog : Catalog) (requests : List Request)
    (strict : p.strictAttributes = true)
    (first : (start (.empty p catalog)).RegistersFirst requests) :
    let r := ((start (.empty p catalog)).serveAll requests).registry
    ∀ m, r.freeze = .ok m → ∀ index l c, m.declarations[index]? = some (.constraint l c) →
      ∀ name v, c.attributes.get? name = some v →
        ∃ k spec j, r.catalog.find? c.kind = some k ∧ k.Declares name spec ∧
          m.json.at? (Mapping.attributePath index name) = some j ∧
          (Mapping.attributeText name j).toList <:+: m.json.pretty.toList ∧
          ((spec.type.Promises j ∧ ∀ x, v = .float x → x.isFinite = true) ∨
            (spec.type = .number ∧ j = .null ∧ ∃ x, v = .float x ∧ x.isFinite = false)) := by
  intro r m hm index l c hindex name v held
  have mem := List.mem_of_getElem? hindex
  rw [Registry.declarations_of_freeze hm] at mem
  obtain ⟨k, known, admits⟩ := first.exists_admits rfl mem
  obtain ⟨spec, declares, accepts⟩ := admits.exists_declares strict held
  have hpath := Mapping.at?_attributePath hindex name
  rw [held] at hpath
  refine ⟨k, spec, v.json, known, declares, hpath, Mapping.attributeText_within hpath, ?_⟩
  by_cases infinite : ∃ x, v = .float x ∧ x.isFinite = false
  · obtain ⟨x, rfl, hx⟩ := infinite
    exact .inr ⟨AttrType.eq_number_of_accepts_float accepts, Value.json_float_of_not_finite hx,
      x, rfl, hx⟩
  · have finite (x : Decimal.Binary64) (hv : v = .float x) : x.isFinite = true := by
      rw [← Bool.not_eq_false]
      exact fun hx => infinite ⟨x, hv, hx⟩
    exact .inl ⟨AttrType.promises_json_of_accepts accepts finite, finite⟩

def ratio : Kind := ((Kind.bare "Ratio").required "limit" .number).optional "share" .number

def unlimitedRatio : Constraint :=
  ((Constraint.bare "Ratio").withAttr "share" (.int 50)).withAttr "limit"
    (.float ⟨0x7ff8000000000000⟩)

def unlimited : List Request :=
  [ratio].map .register ++
    [.root ⟨"bank::Ledger", 0⟩ "ledger", .move "ledger" "rate" (.property "rate" .field),
      .generic "rate" "ratio" "Ratio", .edit "ratio" "ratio" (.param "share" (.int 50)),
      .edit "ratio" "ratio" (.param "limit" (.float ⟨0x7ff8000000000000⟩)),
      .done "ratio"].map .call

def unlimitedMapping : Mapping :=
  .ofDeclarations [.constraint (.property ⟨"bank::Ledger", 0⟩ "rate" .field) unlimitedRatio] []

theorem freeze_unlimited :
    ((start (.empty .strict .builtin)).serveAll unlimited).registry.freeze =
      .ok unlimitedMapping := rfl

theorem attributes_exported_unlimited :
    (∃ j, unlimitedMapping.json.at? (Mapping.attributePath 0 "share") = some j ∧
        AttrType.number.Promises j) ∧
      unlimitedMapping.json.at? (Mapping.attributePath 0 "limit") = some .null := by
  have hexported := attributes_exported .strict .builtin unlimited rfl
    (registersFirst_of_calls rfl _ _) _ freeze_unlimited 0 _ unlimitedRatio rfl
  have hratio {k : Kind} (h : ((start (.empty .strict .builtin)).serveAll
      unlimited).registry.catalog.find? "Ratio" = some k) : k = ratio :=
    (Option.some.inj h).symm
  constructor
  · obtain ⟨k, spec, j, known, declares, hj, -, ⟨promises, -⟩ | ⟨-, -, x, hx, -⟩⟩ :=
      hexported "share" _ rfl
    · cases hratio known
      have hspec : ratio.spec? "share" = some ⟨"share", .number, false⟩ := rfl
      cases hspec.symm.trans (Kind.spec?_eq_some_iff.mpr declares)
      exact ⟨j, hj, promises⟩
    · cases hx
  · obtain ⟨k, spec, j, known, declares, hj, -, ⟨-, finite⟩ | ⟨-, hnull, -⟩⟩ :=
      hexported "limit" _ rfl
    · cases finite _ rfl
    · rw [hj, hnull]

/-- The exception is real: it is not so that every attribute is written as its declaration
promises. -/
theorem attributes_not_always_promised :
    ¬∀ (p : Policy) (catalog : Catalog) (requests : List Request), p.strictAttributes = true →
      (start (.empty p catalog)).RegistersFirst requests →
      ∀ m, ((start (.empty p catalog)).serveAll requests).registry.freeze = .ok m →
      ∀ index l c, m.declarations[index]? = some (.constraint l c) →
      ∀ name v, c.attributes.get? name = some v →
        ∃ k spec j,
          ((start (.empty p catalog)).serveAll requests).registry.catalog.find? c.kind = some k ∧
            k.Declares name spec ∧
            m.json.at? (Mapping.attributePath index name) = some j ∧ spec.type.Promises j := by
  intro promised
  obtain ⟨k, spec, j, -, -, hj, promises⟩ := promised .strict .builtin unlimited rfl
    (registersFirst_of_calls rfl _ _) _ freeze_unlimited 0 _ unlimitedRatio rfl "limit" _ rfl
  have hnull : unlimitedMapping.json.at? (Mapping.attributePath 0 "limit") = some .null := rfl
  rw [hnull] at hj
  cases hj
  exact promises.ne_null rfl

end Session

end BeanRules
