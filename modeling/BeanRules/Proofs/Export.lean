import BeanRules.Mapping
import BeanRules.Proofs.Json.Writer

/-!
What the export of a mapping keeps. In its text a type is its name, wherever it stands, and as an
attribute value it cannot be told from a string; infinities and NaNs are null. Everything else can
be recovered: two mappings are exported alike exactly if they agree after these replacements.
-/
namespace BeanRules

/-- A list is determined up to what its members are determined up to. -/
theorem map_eq_map_iff_of_kernel {α β γ : Type} {f : α → β} {g : α → γ}
    (h : ∀ x y, f x = f y ↔ g x = g y) (l m : List α) : l.map f = m.map f ↔ l.map g = m.map g := by
  induction l generalizing m with
  | nil => cases m <;> simp
  | cons x l ih =>
    cases m with
    | nil => simp
    | cons y m => simp only [List.map_cons, List.cons.injEq, h x y, ih m]

/-! Types. -/

namespace TypeRef

/-- The type that stands for all types of one name. -/
def exported (t : TypeRef) : TypeRef := ⟨t.name, 0⟩

theorem exported_eq_iff (t u : TypeRef) : t.exported = u.exported ↔ t.name = u.name := by
  simp [exported]

theorem json_eq_iff (t u : TypeRef) : t.json = u.json ↔ t.exported = u.exported := by
  rw [exported_eq_iff, json, json, Json.string.injEq]

theorem finite_json (t : TypeRef) : t.json.Finite := .string t.name

end TypeRef

theorem Json.types_eq_iff (l m : List TypeRef) :
    Json.types l = Json.types m ↔ l.map TypeRef.exported = m.map TypeRef.exported := by
  rw [types, types, array.injEq, map_eq_map_iff_of_kernel TypeRef.json_eq_iff]

theorem Json.finite_types (l : List TypeRef) : (Json.types l).Finite :=
  .array (List.forall_mem_map.mpr fun t _ => t.finite_json)

/-! Values. -/

namespace Value

mutual

/-- Types become the strings that hold their names, and what is not finite becomes null. -/
def exported : Value → Value
  | null => .null
  | bool b => .bool b
  | int n => .int n
  | float x => if x.isFinite then .float x else .null
  | string s => .string s
  | type t => .string t.name
  | list items => .list (exporteds items)

def exporteds : List Value → List Value
  | [] => []
  | v :: r => exported v :: exporteds r

end

mutual

def ofJson : Json → Value
  | .null => .null
  | .bool b => .bool b
  | .int n => .int (.ofInt n)
  | .float x => .float x
  | .string s => .string s
  | .array items => .list (ofJsons items)
  | .object _ => .null

def ofJsons : List Json → List Value
  | [] => []
  | j :: r => ofJson j :: ofJsons r

end

mutual

theorem ofJson_json (v : Value) : ofJson v.json = v.exported := by
  cases v with
  | null => rfl
  | bool b => rfl
  | int n => rw [json, ofJson, exported, Int64.ofInt_toInt]
  | float x =>
    rw [json, exported]
    split <;> rfl
  | string s => rfl
  | type t => rfl
  | list items => rw [json, ofJson, exported, ofJsons_jsons items]

theorem ofJsons_jsons (l : List Value) : ofJsons (jsons l) = exporteds l := by
  cases l with
  | nil => rfl
  | cons v r => rw [jsons, ofJsons, exporteds, ofJson_json v, ofJsons_jsons r]

end

mutual

theorem json_exported (v : Value) : v.exported.json = v.json := by
  cases v with
  | null => rfl
  | bool b => rfl
  | int n => rfl
  | float x =>
    rw [exported, json]
    split
    case isTrue h => rw [json, if_pos h]
    case isFalse => rfl
  | string s => rfl
  | type t => rfl
  | list items => rw [exported, json, json, jsons_exporteds items]

theorem jsons_exporteds (l : List Value) : jsons (exporteds l) = jsons l := by
  cases l with
  | nil => rfl
  | cons v r => rw [exporteds, jsons, jsons, json_exported v, jsons_exporteds r]

end

theorem json_eq_iff (v w : Value) : v.json = w.json ↔ v.exported = w.exported := by
  constructor
  · intro h
    rw [← ofJson_json v, h, ofJson_json w]
  · intro h
    rw [← json_exported v, h, json_exported w]

mutual

theorem finite_json (v : Value) : v.json.Finite := by
  cases v with
  | null => exact .null
  | bool b => exact .bool b
  | int n => exact .int n.toInt
  | float x =>
    rw [json]
    split
    case isTrue h => exact .float h
    case isFalse => exact .null
  | string s => exact .string s
  | type t => exact t.finite_json
  | list items => exact .array (finite_jsons items)

theorem finite_jsons (l : List Value) : ∀ j ∈ jsons l, j.Finite := by
  cases l with
  | nil => exact List.forall_mem_nil _
  | cons v r => exact List.forall_mem_cons.mpr ⟨finite_json v, finite_jsons r⟩

end

end Value

namespace Attributes

def exported (a : Attributes) : Attributes :=
  ⟨a.entries.map fun e => (e.1, e.2.exported), List.pairwise_map.mpr a.ascending⟩

theorem json_eq_iff (a b : Attributes) : a.json = b.json ↔ a.exported = b.exported := by
  have hentry : ∀ e f : String × Value,
      (e.1, e.2.json) = (f.1, f.2.json) ↔ (e.1, e.2.exported) = (f.1, f.2.exported) := by
    intro e f
    rw [Prod.mk.injEq, Prod.mk.injEq, Value.json_eq_iff]
  rw [json, json, Json.object.injEq, map_eq_map_iff_of_kernel hentry, exported, exported,
    ByName.mk.injEq]

theorem finite_json (a : Attributes) : a.json.Finite :=
  .object (List.forall_mem_map.mpr fun e _ => e.2.finite_json)

end Attributes

/-! Locations. -/

namespace Signature

def exported (s : Signature) : Signature :=
  ⟨s.bean.exported, s.name, s.parameterTypes.map TypeRef.exported, s.named⟩

theorem json_eq_iff (s t : Signature) : s.json = t.json ↔ s.exported = t.exported := by
  simp only [json, exported, Json.object.injEq, List.cons.injEq, Prod.mk.injEq, true_and, and_true,
    Json.string.injEq, TypeRef.json_eq_iff, Json.types_eq_iff, mk.injEq]

theorem finite_json (s : Signature) : s.json.Finite := by
  simp only [json, Json.finite_object_cons]
  exact ⟨s.bean.finite_json, .string s.name, Json.finite_types s.parameterTypes,
    Json.finite_object_nil⟩

end Signature

theorem Access.word_inj {a b : Access} : a.word = b.word ↔ a = b := by
  cases a <;> cases b <;> decide

namespace Location

def exported : Location → Location
  | bean b => .bean b.exported
  | property b name access => .property b.exported name access
  | method s target => .method s.exported target

/-- The kinds tell the variants apart, also a return value from a parameter. -/
theorem json_eq_iff (l m : Location) : l.json = m.json ↔ l.exported = m.exported := by
  rcases l with b | ⟨b, name, access⟩ | ⟨s, _ | i⟩ <;>
    rcases m with b' | ⟨b', name', access'⟩ | ⟨s', _ | i'⟩ <;>
      simp [json, exported, TypeRef.json_eq_iff, Signature.json_eq_iff, Access.word_inj]

theorem finite_json (l : Location) : l.json.Finite := by
  rcases l with b | ⟨b, name, access⟩ | ⟨s, _ | i⟩ <;> simp only [json, Json.finite_object_cons]
  · exact ⟨.string _, b.finite_json, Json.finite_object_nil⟩
  · exact ⟨.string _, b.finite_json, .string name, .string _, Json.finite_object_nil⟩
  · exact ⟨.string _, s.finite_json, Json.finite_object_nil⟩
  · exact ⟨.string _, s.finite_json, .int i, Json.finite_object_nil⟩

end Location

/-! Declarations. -/

namespace Json

def named (key : String) : Json → List (String × Json)
  | object members => members.filter (·.1 == key)
  | _ => []

def typesMember (key : String) (l : List TypeRef) : List (String × Json) :=
  if l.isEmpty then [] else [(key, types l)]

theorem typesMember_eq_iff (key : String) (l m : List TypeRef) :
    typesMember key l = typesMember key m ↔ l.map TypeRef.exported = m.map TypeRef.exported := by
  rw [← types_eq_iff]
  cases l <;> cases m <;> simp [typesMember, types]

theorem finite_typesMember (key : String) (l : List TypeRef) :
    (object (typesMember key l)).Finite := by
  unfold typesMember
  split
  · exact finite_object_nil
  · exact finite_object_cons.mpr ⟨finite_types l, finite_object_nil⟩

end Json

namespace Constraint

def exported (c : Constraint) : Constraint :=
  ⟨c.kind, c.attributes.exported, c.message, c.groups.map TypeRef.exported,
    c.payload.map TypeRef.exported⟩

def messageMember (c : Constraint) : List (String × Json) :=
  c.message.toList.map fun m => ("message", .string m)

theorem messageMember_eq_iff (c d : Constraint) :
    c.messageMember = d.messageMember ↔ c.message = d.message := by
  unfold messageMember
  cases c.message <;> cases d.message <;> simp

theorem json_eq (c : Constraint) : c.json =
    .object ([("kind", .string c.kind), ("attributes", c.attributes.json)] ++ c.messageMember ++
      Json.typesMember "groups" c.groups ++ Json.typesMember "payload" c.payload) := rfl

theorem named_json (c : Constraint) :
    c.json.named "kind" = [("kind", .string c.kind)] ∧
      c.json.named "attributes" = [("attributes", c.attributes.json)] ∧
        c.json.named "message" = c.messageMember ∧
          c.json.named "groups" = Json.typesMember "groups" c.groups ∧
            c.json.named "payload" = Json.typesMember "payload" c.payload := by
  rw [json_eq]
  unfold messageMember Json.typesMember
  cases c.message <;> cases c.groups.isEmpty <;> cases c.payload.isEmpty <;> simp [Json.named]

theorem json_eq_iff (c d : Constraint) : c.json = d.json ↔ c.exported = d.exported := by
  rw [exported, exported, mk.injEq, ← Attributes.json_eq_iff, ← messageMember_eq_iff,
    ← Json.typesMember_eq_iff "groups", ← Json.typesMember_eq_iff "payload"]
  constructor
  · intro h
    obtain ⟨hkind, hattributes, hmessage, hgroups, hpayload⟩ := c.named_json
    obtain ⟨hkind', hattributes', hmessage', hgroups', hpayload'⟩ := d.named_json
    rw [h] at hkind hattributes hmessage hgroups hpayload
    refine ⟨?_, ?_, hmessage.symm.trans hmessage', hgroups.symm.trans hgroups',
      hpayload.symm.trans hpayload'⟩
    · simpa using hkind.symm.trans hkind'
    · simpa using hattributes.symm.trans hattributes'
  · rintro ⟨hkind, hattributes, hmessage, hgroups, hpayload⟩
    rw [json_eq, json_eq, hkind, hattributes, hmessage, hgroups, hpayload]

theorem finite_json (c : Constraint) : c.json.Finite := by
  rw [json_eq]
  simp only [Json.finite_object_append, Json.finite_object_cons]
  refine ⟨⟨⟨⟨.string c.kind, c.attributes.finite_json, Json.finite_object_nil⟩, ?_⟩,
    Json.finite_typesMember _ _⟩, Json.finite_typesMember _ _⟩
  exact .object (List.forall_mem_map.mpr fun m _ => .string m)

end Constraint

namespace Declaration

def exported : Declaration → Declaration
  | constraint l c => .constraint l.exported c.exported
  | cascade l => .cascade l.exported

theorem json_eq_iff (d e : Declaration) : d.json = e.json ↔ d.exported = e.exported := by
  cases d <;> cases e <;>
    simp [json, body, isCascade, exported, Location.json_eq_iff, Constraint.json_eq_iff]

theorem finite_json (d : Declaration) : d.json.Finite := by
  cases d with
  | constraint l c =>
    simp only [json, body, Json.finite_object_cons]
    exact ⟨.string _, l.finite_json, c.finite_json, Json.finite_object_nil⟩
  | cascade l =>
    simp only [json, body, Json.finite_object_cons]
    exact ⟨.string _, l.finite_json, Json.finite_object_nil⟩

end Declaration

namespace GroupSequences

def exported (s : GroupSequences) : GroupSequences :=
  s.map fun e => (e.1.exported, e.2.map TypeRef.exported)

theorem json_eq_iff (s t : GroupSequences) : s.json = t.json ↔ s.exported = t.exported := by
  rw [json, json, Json.array.injEq]
  apply map_eq_map_iff_of_kernel
  intro e f
  simp [TypeRef.json_eq_iff, Json.types_eq_iff]

theorem finite_json (s : GroupSequences) : s.json.Finite := by
  refine .array (List.forall_mem_map.mpr fun e _ => ?_)
  simp only [Json.finite_object_cons]
  exact ⟨e.1.finite_json, Json.finite_types e.2, Json.finite_object_nil⟩

end GroupSequences

namespace Mapping

theorem json_eq_iff (m n : Mapping) : m.json = n.json ↔
    m.declarations.map Declaration.exported = n.declarations.map Declaration.exported ∧
      m.sequences.exported = n.sequences.exported := by
  have hdeclarations := map_eq_map_iff_of_kernel Declaration.json_eq_iff m.declarations
    n.declarations
  simp [json, GroupSequences.json_eq_iff, hdeclarations]

theorem finite_json (m : Mapping) : m.json.Finite := by
  simp only [json, Json.finite_object_cons]
  exact ⟨.array (List.forall_mem_map.mpr fun d _ => d.finite_json), m.sequences.finite_json,
    Json.finite_object_nil⟩

/-- Two mappings are exported alike exactly if they agree up to the replacements. -/
theorem pretty_json_eq_iff (m n : Mapping) : m.json.pretty = n.json.pretty ↔
    m.declarations.map Declaration.exported = n.declarations.map Declaration.exported ∧
      m.sequences.exported = n.sequences.exported := by
  rw [← json_eq_iff]
  constructor
  · exact m.finite_json.pretty_inj n.finite_json
  · exact congrArg Json.pretty

end Mapping

end BeanRules
