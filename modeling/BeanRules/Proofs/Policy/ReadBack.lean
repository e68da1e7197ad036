import BeanRules.Proofs.Json.Writer
import BeanRules.Proofs.Json.Written
import BeanRules.Proofs.Policy.Texts

/-!
Which objects a policy is read from and which are refused. A written policy is read back, also with
its members in another order and others among them.
-/
namespace BeanRules.Policy

open Json (StringPart Item Member ValueText Spaces Listed Spacing closed)

def choiceNames : List String := ["index_check", "strict_attributes", "validate_patterns"]

/-- A string that stands for this word, in whichever way it is spelled. -/
def Spells (word : String) (v : List Char) : Prop :=
  ∃ parts, v = '"' :: closed parts ∧ StringPart.decode? parts = some word.toList

/-- Every choice at most once, and nothing but what it can be. -/
structure Proper (entries : List Entry) : Prop where
  once : ∀ name ∈ choiceNames, (valuesOf name entries).length ≤ 1
  indexCheck : ∀ v ∈ valuesOf "index_check" entries, ∃ k : IndexCheck, Spells k.word v
  strictAttributes : ∀ v ∈ valuesOf "strict_attributes" entries, ∃ b, SaysFlag b v
  validatePatterns : ∀ v ∈ valuesOf "validate_patterns" entries, ∃ b, SaysFlag b v

/-- The values of the choices that are made, and the strict ones for the others. -/
structure Gives (entries : List Entry) (p : Policy) : Prop where
  indexCheck : Chosen (fun k v => Spells k.word v) strict.indexCheck
    (valuesOf "index_check" entries) p.indexCheck
  strictAttributes : Chosen SaysFlag strict.strictAttributes
    (valuesOf "strict_attributes" entries) p.strictAttributes
  validatePatterns : Chosen SaysFlag strict.validatePatterns
    (valuesOf "validate_patterns" entries) p.validatePatterns

/-- A choice twice, a flag that is none, or a string that is no index check. -/
inductive Flawed (entries : List Entry) : Prop where
  | twice {name : String} (known : name ∈ choiceNames)
      (twice : 2 ≤ (valuesOf name entries).length)
  | indexCheck {parts : List StringPart}
      (given : '"' :: closed parts ∈ valuesOf "index_check" entries)
      (amiss : ∀ k : IndexCheck, StringPart.decode? parts ≠ some k.word.toList)
  | strictAttributes {v : List Char} (given : v ∈ valuesOf "strict_attributes" entries)
      (amiss : ∀ b, ¬SaysFlag b v)
  | validatePatterns {v : List Char} (given : v ∈ valuesOf "validate_patterns" entries)
      (amiss : ∀ b, ¬SaysFlag b v)

def choicesOf (entries : List Entry) : List (String × List Char) :=
  (entries.filter (·.name ∈ choiceNames)).map fun e => (e.name, e.value)

def written (p : Policy) : List (String × List Char) :=
  match p.json with
  | .object members => members.map fun m => (m.1, m.2.write .tight 0)
  | _ => []

section Chosen

variable {α : Type} {said said' : α → List Char → Prop} {default a : α} {l l' : List (List Char)}

theorem exists_chosen (once : l.length ≤ 1) (each : ∀ v ∈ l, ∃ a, said a v) :
    ∃ a, Chosen said default l a := by
  match l with
  | [] => exact ⟨default, rfl⟩
  | [v] => exact each v (List.mem_singleton_self v)
  | _ :: _ :: _ => simp at once

theorem Chosen.mono (h : Chosen said default l a) (imp : ∀ a v, said a v → said' a v) :
    Chosen said' default l a := by
  match l with
  | [] => exact h
  | [v] => exact imp a v h
  | _ :: _ :: _ => exact h

theorem Chosen.length_le (h : Chosen said default l a) : l.length ≤ 1 := by
  match l with
  | [] => exact Nat.zero_le 1
  | [v] => exact Nat.le_refl 1
  | _ :: _ :: _ => exact h.elim

theorem Chosen.of_mem (h : Chosen said default l a) {v : List Char} (hv : v ∈ l) : said a v := by
  match l with
  | [] => cases hv
  | [w] =>
    cases List.mem_singleton.mp hv
    exact h
  | _ :: _ :: _ => exact h.elim

theorem Chosen.perm (h : Chosen said default l a) (hl : l.Perm l') : Chosen said default l' a := by
  match l with
  | [] =>
    rw [List.nil_perm.mp hl]
    exact h
  | [v] =>
    rw [← List.singleton_perm.mp hl]
    exact h
  | _ :: _ :: _ => exact h.elim

end Chosen

theorem SaysCheck.of_spells {k : IndexCheck} {v : List Char} (h : Spells k.word v) :
    SaysCheck k v := by
  obtain ⟨parts, rfl, spells⟩ := h
  exact .string spells

theorem spells_writeString (word : String) : Spells word (Json.writeString word) :=
  ⟨_, (Json.quote_closed_writtenParts _).symm, Json.decode?_writtenParts _⟩

section Texts

variable {text : String} {entries entries' : List Entry} {p : Policy}

theorem Gives.chooses (h : Gives entries p) : Chooses entries p :=
  ⟨h.indexCheck.mono fun _ _ => .of_spells, h.strictAttributes, h.validatePatterns⟩

theorem Proper.exists_gives (h : Proper entries) : ∃ p, Gives entries p := by
  obtain ⟨check, hcheck⟩ := exists_chosen (h.once "index_check" (by decide)) h.indexCheck
  obtain ⟨strict, hstrict⟩ :=
    exists_chosen (h.once "strict_attributes" (by decide)) h.strictAttributes
  obtain ⟨validate, hvalidate⟩ :=
    exists_chosen (h.once "validate_patterns" (by decide)) h.validatePatterns
  exact ⟨⟨check, strict, validate⟩, hcheck, hstrict, hvalidate⟩

theorem Chooses.length_le (h : Chooses entries p) {name : String} (known : name ∈ choiceNames) :
    (valuesOf name entries).length ≤ 1 := by
  simp only [choiceNames, List.mem_cons, List.not_mem_nil, or_false] at known
  rcases known with rfl | rfl | rfl
  · exact h.indexCheck.length_le
  · exact h.strictAttributes.length_le
  · exact h.validatePatterns.length_le

theorem saysCheck_string {k : IndexCheck} {parts : List StringPart}
    (h : SaysCheck k ('"' :: closed parts)) : StringPart.decode? parts = some k.word.toList := by
  generalize hv : '"' :: closed parts = v at h
  cases h with
  | string spells => rw [Json.decode?_eq_of_closed_eq (List.tail_eq_of_cons_eq hv), spells]
  | tagged => cases hv

theorem Flawed.not_chooses (h : Flawed entries) : ¬Chooses entries p := by
  intro hp
  cases h with
  | twice known twice => exact absurd (hp.length_le known) (Nat.not_le.mpr twice)
  | indexCheck given amiss => exact amiss _ (saysCheck_string (hp.indexCheck.of_mem given))
  | strictAttributes given amiss => exact amiss _ (hp.strictAttributes.of_mem given)
  | validatePatterns given amiss => exact amiss _ (hp.validatePatterns.of_mem given)

theorem choicesOf_eq (entries : List Entry) : choicesOf entries =
    (entries.map fun e => (e.name, e.value)).filter (·.1 ∈ choiceNames) := by
  unfold choicesOf
  rw [List.filter_map]
  rfl

theorem valuesOf_eq {name : String} (known : name ∈ choiceNames) (entries : List Entry) :
    valuesOf name entries = ((choicesOf entries).filter (·.1 = name)).map (·.2) := by
  unfold valuesOf choicesOf
  have hfilter (e : Entry) : decide (e.name = name) =
      (decide (e.name = name) && decide (e.name ∈ choiceNames)) := by
    by_cases h : e.name = name
    · simp [h, known]
    · simp [h]
  rw [List.filter_map, List.map_map, List.filter_filter, List.filter_congr fun e _ => hfilter e]
  rfl

theorem Chooses.perm (h : Chooses entries p)
    (hchoices : (choicesOf entries).Perm (choicesOf entries')) : Chooses entries' p := by
  have hvalues {name : String} (known : name ∈ choiceNames) :
      (valuesOf name entries).Perm (valuesOf name entries') := by
    rw [valuesOf_eq known, valuesOf_eq known]
    exact (hchoices.filter _).map _
  exact ⟨h.indexCheck.perm (hvalues (by decide)), h.strictAttributes.perm (hvalues (by decide)),
    h.validatePatterns.perm (hvalues (by decide))⟩

end Texts

section Written

variable {sp : Spacing} {depth : Nat}

theorem write_word (s : String) : (Json.string s).write sp depth = Json.writeString s := by
  rw [Json.write]

theorem write_flag (b : Bool) : (Json.bool b).write sp depth = flagText b := by
  cases b <;> rfl

theorem valueText_flag (b : Bool) : ValueText (flagText b) := by
  cases b with
  | true => exact .yes
  | false => exact .no

theorem written_eq (p : Policy) : p.written =
    [("index_check", Json.writeString p.indexCheck.word),
      ("strict_attributes", flagText p.strictAttributes),
      ("validate_patterns", flagText p.validatePatterns)] := by
  simp [written, json, write_word, write_flag]

theorem chooses_of_written {entries : List Entry} {p : Policy}
    (h : (choicesOf entries).Perm p.written) : Chooses entries p := by
  have hvalues {name : String} {v : List Char} (known : name ∈ choiceNames)
      (hv : (p.written.filter (·.1 = name)).map (·.2) = [v]) : valuesOf name entries = [v] := by
    have hperm := (h.filter (·.1 = name)).map (·.2)
    rw [hv, ← valuesOf_eq known] at hperm
    exact List.perm_singleton.mp hperm
  rw [written_eq] at hvalues
  refine ⟨?_, ?_, ?_⟩
  · rw [hvalues (by decide) rfl]
    exact .of_spells (spells_writeString _)
  · rw [hvalues (by decide) rfl]
    exact rfl
  · rw [hvalues (by decide) rfl]
    exact rfl

def Entry.written {before colon value after : List Char} (name : String)
    (wellFormed : ValueText value) (spaces_before : Spaces before) (spaces_colon : Spaces colon)
    (spaces_after : Spaces after) : Entry where
  member := ⟨before, Json.writtenParts name, [],
    ⟨colon, value, after, spaces_colon, spaces_after⟩, spaces_before, Json.spaces_nil⟩
  name := name
  named := Json.decode?_writtenParts name
  wellFormed := wellFormed

theorem Entry.text_written {before colon value after : List Char} (name : String)
    (wellFormed : ValueText value) (spaces_before : Spaces before) (spaces_colon : Spaces colon)
    (spaces_after : Spaces after) :
    (Entry.written name wellFormed spaces_before spaces_colon spaces_after).text =
      before ++ (Json.writeString name ++ ':' :: (colon ++ (value ++ after))) := by
  rw [← Json.quote_closed_writtenParts]
  simp [Entry.text, Entry.written, Member.text, Member.fromKey, Item.text]

/-- The induction is on the members; the last one has the white space before the brace behind it. -/
theorem exists_written_members (blank : sp.Blank) (hcolon : Spaces sp.afterColon)
    {after : List Char} (hafter : Spaces after) (m : String × Json) (ms : List (String × Json))
    (values : ∀ m' ∈ m :: ms, ValueText (m'.2.write sp depth)) :
    ∃ (first : Entry) (rest : List Entry),
      first.text ++ rest.flatMap (fun e => ',' :: e.text) =
        Json.writeMembers sp depth (m :: ms) ++ after ∧
      (first :: rest).map (fun e => (e.name, e.value)) =
        (m :: ms).map fun m' => (m'.1, m'.2.write sp depth) := by
  induction ms generalizing m with
  | nil =>
    have hv := values m List.mem_cons_self
    refine ⟨.written m.1 hv (Json.spaces_iff.mpr (blank depth)) hcolon hafter, [], ?_, rfl⟩
    rw [Entry.text_written]
    obtain ⟨name, j⟩ := m
    simp [Json.writeMembers, Json.writeMember]
  | cons m' ms ih =>
    obtain ⟨hv, hvs⟩ := List.forall_mem_cons.mp values
    obtain ⟨first, rest, htext, hvalues⟩ := ih m' hvs
    refine ⟨.written m.1 hv (Json.spaces_iff.mpr (blank depth)) hcolon Json.spaces_nil,
      first :: rest, ?_, ?_⟩
    · rw [Entry.text_written, List.flatMap_cons, List.cons_append, htext]
      obtain ⟨name, j⟩ := m
      simp [Json.writeMembers, Json.writeMember]
    · rw [List.map_cons, hvalues]
      rfl

theorem exists_objectText_write (blank : sp.Blank) (hcolon : Spaces sp.afterColon) (p : Policy) :
    ∃ entries, ObjectText (p.json.write sp 0) entries ∧ choicesOf entries = p.written := by
  have hvalues : ∀ m ∈ [("index_check", Json.string p.indexCheck.word),
      ("strict_attributes", .bool p.strictAttributes),
      ("validate_patterns", .bool p.validatePatterns)], ValueText (m.2.write sp 1) := by
    simp only [List.forall_mem_cons]
    rw [write_word, write_flag, write_flag]
    exact ⟨Json.value_writeString _, valueText_flag _, valueText_flag _, List.forall_mem_nil _⟩
  obtain ⟨first, rest, htext, hchoices⟩ := exists_written_members blank hcolon
    (Json.spaces_iff.mpr (blank 0)) _ _ hvalues
  refine ⟨first :: rest, ?_, ?_⟩
  · have hobject := ObjectText.mk Json.spaces_nil Json.spaces_nil (.some first rest)
    rw [htext] at hobject
    unfold json
    rw [Json.write]
    simpa using hobject
  · rw [choicesOf_eq, hchoices, written_eq]
    simp [write_word, write_flag, choiceNames]

theorem exists_objectText_compact (p : Policy) :
    ∃ entries, ObjectText p.json.compact.toList entries ∧ choicesOf entries = p.written := by
  unfold Json.compact
  rw [String.toList_ofList]
  exact exists_objectText_write Spacing.blank_tight Json.spaces_nil p

theorem exists_objectText_pretty (p : Policy) :
    ∃ entries, ObjectText p.json.pretty.toList entries ∧ choicesOf entries = p.written := by
  unfold Json.pretty
  rw [String.toList_ofList]
  exact exists_objectText_write Spacing.blank_indented (by simp [Spaces, Spacing.indented]) p

end Written

/-- What an object is read as, whatever its white space, the order of its members and the members
that make no choice. -/
theorem objects_read {text : String} {entries : List Entry}
    (h : ObjectText text.toList entries) :
    (Proper entries → ∃ p, Policy.fromJson text = .ok p ∧ Gives entries p) ∧
    (Flawed entries → ∃ fault, Policy.fromJson text = .error (.malformedPolicy fault)) ∧
    (∀ (other : String) (entries' : List Entry), ObjectText other.toList entries' →
      (choicesOf entries).Perm (choicesOf entries') →
      ∀ p, Policy.fromJson other = .ok p ↔ Policy.fromJson text = .ok p) ∧
    (∀ p : Policy, (choicesOf entries).Perm p.written → Policy.fromJson text = .ok p) ∧
    ∀ p : Policy, ∀ document ∈ [p.json.compact, p.json.pretty],
      Policy.fromJson document = .ok p ∧
      ∃ es, ObjectText document.toList es ∧ choicesOf es = p.written := by
  obtain ⟨hreads, hfails⟩ := fromJson_settles h
  refine ⟨fun proper => ?_, fun flawed => ?_, fun other entries' hother hchoices p => ?_,
    fun p hchoices => ?_, fun p document hdocument => ?_⟩
  · obtain ⟨p, hp⟩ := proper.exists_gives
    exact ⟨p, (hreads p).mpr hp.chooses, hp⟩
  · exact hfails fun p => flawed.not_chooses
  · rw [hreads, (fromJson_settles hother).1]
    exact ⟨fun hp => hp.perm hchoices.symm, fun hp => hp.perm hchoices⟩
  · exact (hreads p).mpr (chooses_of_written hchoices)
  · have hwritten : ∃ es, ObjectText document.toList es ∧ choicesOf es = p.written := by
      simp only [List.mem_cons, List.not_mem_nil, or_false] at hdocument
      rcases hdocument with rfl | rfl
      · exact exists_objectText_compact p
      · exact exists_objectText_pretty p
    obtain ⟨es, hes, hchoices⟩ := hwritten
    have hp := chooses_of_written (.of_eq hchoices)
    exact ⟨((fromJson_settles hes).1 p).mpr hp, es, hes, hchoices⟩

/-! Members in another order, one key escaped, and one that makes no choice. -/

namespace Sample

def nested : Member where
  before := []
  key := Json.writtenParts "index_check"
  behindKey := []
  item := ⟨[], Json.writeString "lazy", [' '], Json.spaces_nil, by simp [Spaces]⟩
  spaces_before := Json.spaces_nil
  spaces_behindKey := Json.spaces_nil

theorem valueText_nested : ValueText ('\x7b' :: (nested.text ++ ['\x7d'])) := by
  have hlisted : Listed Member.text [nested] (nested.text ++ []) := .some nested []
  rw [List.append_nil] at hlisted
  exact .object hlisted (List.forall_mem_singleton.mpr (Json.value_writeString "lazy"))

def tight {value : List Char} (name : String) (wellFormed : ValueText value) : Entry :=
  .written name wellFormed Json.spaces_nil Json.spaces_nil Json.spaces_nil

def escaped : Entry where
  member := ⟨['\n', ' ', ' '], .unit '0' '0' '6' '9' 0x69 rfl :: Json.writtenParts "ndex_check", [],
    ⟨[], Json.writeString "deferred", [], Json.spaces_nil, Json.spaces_nil⟩,
    by simp [Spaces], Json.spaces_nil⟩
  name := "index_check"
  named := by
    rw [StringPart.decode?_single rfl rfl rfl, Json.decode?_writtenParts]
    rfl
  wellFormed := Json.value_writeString "deferred"

def entries : List Entry :=
  [tight "note" valueText_nested, tight "validate_patterns" .no, escaped,
    tight "strict_attributes" .yes]

def text : String :=
  "\x7b\"note\":\x7b\"index_check\":\"lazy\" \x7d,\"validate_patterns\":false,
  \"\\u0069ndex_check\":\"deferred\",\"strict_attributes\":true\x7d"

theorem objectText : ObjectText text.toList entries := by
  have h : ObjectText ('\x7b' :: _) entries :=
    .mk Json.spaces_nil Json.spaces_nil (.some (tight "note" valueText_nested) _)
  simp only [text, String.reduceToList]
  exact h

theorem proper : Proper entries where
  once := by decide
  indexCheck := by
    have hvalues : valuesOf "index_check" entries = [Json.writeString "deferred"] := by decide
    rw [hvalues]
    exact List.forall_mem_singleton.mpr ⟨.deferred, spells_writeString _⟩
  strictAttributes := by
    have hvalues : valuesOf "strict_attributes" entries = [flagText true] := by decide
    rw [hvalues]
    exact List.forall_mem_singleton.mpr ⟨true, rfl⟩
  validatePatterns := by
    have hvalues : valuesOf "validate_patterns" entries = [flagText false] := by decide
    rw [hvalues]
    exact List.forall_mem_singleton.mpr ⟨false, rfl⟩

end Sample

theorem objects_read_reordered :
    (∃ p, Policy.fromJson Sample.text = .ok p ∧ Gives Sample.entries p) ∧
    Policy.fromJson Sample.text = .ok ⟨.deferred, true, false⟩ ∧
    ∃ fault, Policy.fromJson "\x7b\"strict_attributes\":null\x7d" =
      .error (.malformedPolicy fault) := by
  have hwritten : (choicesOf Sample.entries).Perm (written ⟨.deferred, true, false⟩) := by
    rw [written_eq]
    decide
  have hnull (b : Bool) : ¬SaysFlag b ['n', 'u', 'l', 'l'] := by
    cases b <;> simp [SaysFlag, flagText]
  have hflawed : Flawed [Sample.tight "strict_attributes" .null] :=
    .strictAttributes List.mem_cons_self hnull
  have hobject : ObjectText "\x7b\"strict_attributes\":null\x7d".toList
      [Sample.tight "strict_attributes" .null] :=
    .mk Json.spaces_nil Json.spaces_nil (.some (Sample.tight "strict_attributes" .null) [])
  obtain ⟨hgives, -, -, hreads, -⟩ := objects_read Sample.objectText
  obtain ⟨-, hfails, -⟩ := objects_read hobject
  exact ⟨hgives Sample.proper, hreads _ hwritten, hfails hflawed⟩

end BeanRules.Policy
