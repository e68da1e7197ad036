import BeanRules.Proofs.Policy.Members
import BeanRules.Refusal

/-!
A policy text is read as the choices that its members make. Members may stand in any order and with
any white space, and whatever else is among them is skipped.
-/
namespace BeanRules.Policy

open Json (Stop Member StringPart ValueText Spaces Follows Leaves Listed closed skipSpace)
open Text (Rest)

def Entry.text (e : Entry) : List Char := e.member.text

/-- An object with these members and nothing around it but white space. -/
inductive ObjectText : List Char → List Entry → Prop where
  | mk {front body back : List Char} {entries : List Entry} (spaces_front : Spaces front)
      (spaces_back : Spaces back) (listed : Listed Entry.text entries body) :
      ObjectText (front ++ '\x7b' :: (body ++ '\x7d' :: back)) entries

/-! What all members of a text come to. -/

def MakesAll {α : Type} (name : String) (said : α → List Char → Prop) :
    List Entry → Option α → Option α → Prop
  | [], before, after => after = before
  | e :: entries, before, after =>
    ∃ between, Makes name said e before between ∧ MakesAll name said entries between after

structure TakesAll (d : Draft) (entries : List Entry) (d' : Draft) : Prop where
  indexCheck : MakesAll "index_check" SaysCheck entries d.indexCheck d'.indexCheck
  strictAttributes :
    MakesAll "strict_attributes" SaysFlag entries d.strictAttributes d'.strictAttributes
  validatePatterns :
    MakesAll "validate_patterns" SaysFlag entries d.validatePatterns d'.validatePatterns

section Run

variable {d d' : Draft} {e : Entry} {entries : List Entry} {b body s t u v r : List Char}

theorem takesAll_nil : TakesAll d [] d' ↔ d' = d := by
  constructor
  · rintro ⟨hcheck, hstrict, hvalidate⟩
    obtain ⟨check, strict, validate⟩ := d'
    cases hcheck
    cases hstrict
    cases hvalidate
    rfl
  · rintro rfl
    exact ⟨rfl, rfl, rfl⟩

theorem takesAll_cons :
    TakesAll d (e :: entries) d' ↔ ∃ between, Takes d e between ∧ TakesAll between entries d' := by
  constructor
  · rintro ⟨⟨check, hcheck, hchecks⟩, ⟨strict, hstrict, hstricts⟩, ⟨validate, hvalidate, hvalidates⟩⟩
    exact ⟨⟨check, strict, validate⟩, ⟨hcheck, hstrict, hvalidate⟩,
      ⟨hchecks, hstricts, hvalidates⟩⟩
  · rintro ⟨between, ⟨hcheck, hstrict, hvalidate⟩, ⟨hchecks, hstricts, hvalidates⟩⟩
    exact ⟨⟨_, hcheck, hchecks⟩, ⟨_, hstrict, hstricts⟩, ⟨_, hvalidate, hvalidates⟩⟩

theorem settles_membersEnd (d : Draft) (h : skipSpace s = '\x7d' :: r) :
    Settles id (TakesAll d []) (readMoreMembers d s) r := by
  rw [readMoreMembers]
  split
  case h_2 h' =>
    cases h.symm.trans h'
    have hdone : Settles id (· = d) (Except.ok (d, r)) r := settles_ok rfl
    exact hdone.congr fun d' => takesAll_nil
  all_goals simp_all

theorem settles_nextMember (h : skipSpace s = ',' :: t) (h' : skipSpace t = '"' :: u)
    (member : Settles readTo (Takes d e) (readMember d u) v)
    (rest : ∀ d, Settles id (TakesAll d entries) (readMoreMembers d v) r) :
    Settles id (TakesAll d (e :: entries)) (readMoreMembers d s) r := by
  rw [readMoreMembers]
  split
  case h_3 hcomma =>
    cases h.symm.trans hcomma
    split
    case h_2 hquote =>
      cases h'.symm.trans hquote
      refine (member.bind fun d x _ hx => ?_).congr fun d' => takesAll_cons
      obtain ⟨d, w⟩ := x
      cases hx
      exact rest d
    all_goals simp_all
  all_goals simp_all

/-- The induction is on the members, each of which leaves the white space behind it to the next. -/
theorem settles_moreMembers (entries : List Entry) (d : Draft) (hb : Spaces b) (r : List Char) :
    Settles id (TakesAll d entries)
      (readMoreMembers d (b ++ (entries.flatMap (fun e => ',' :: e.text) ++ '\x7d' :: r))) r := by
  induction entries generalizing d b with
  | nil =>
    apply settles_membersEnd
    exact Json.skipSpace_of_spaces hb rfl _
  | cons e entries ih =>
    have hmember := settles_member d e (Json.follows_items Entry.text entries (.inr rfl) r)
    have hrest (d : Draft) := ih d e.member.item.spaces_after
    rw [List.flatMap_cons, List.append_assoc, List.cons_append]
    refine settles_nextMember ?_ (Json.skipSpace_member e.member _) hmember hrest
    exact Json.skipSpace_of_spaces hb rfl _

theorem settles_members (listed : Listed Entry.text entries body) (r : List Char) :
    Settles id (TakesAll .empty entries) (readMembers (body ++ '\x7d' :: r)) r := by
  unfold readMembers
  cases listed with
  | none spaces =>
    rw [Json.skipSpace_of_spaces spaces rfl]
    have hdone : Settles id (· = .empty) (Except.ok (Draft.empty, r)) r := settles_ok rfl
    exact hdone.congr fun d' => takesAll_nil
  | some first rest =>
    have hmember := settles_member .empty first (Json.follows_items Entry.text rest (.inr rfl) r)
    rw [List.append_assoc, Entry.text, Json.skipSpace_member]
    refine (hmember.bind fun d x _ hx => ?_).congr fun d' => takesAll_cons
    obtain ⟨d, w⟩ := x
    obtain ⟨rfl, hw⟩ := Prod.mk.inj hx
    dsimp only at hw ⊢
    rw [hw]
    exact settles_moreMembers rest d first.member.item.spaces_after r

theorem settles_document {text : List Char} (h : ObjectText text entries) :
    Settles (·, []) (fun p => ∃ d, TakesAll .empty entries d ∧ p = d.complete)
      (readDocument text) [] := by
  obtain ⟨spaces_front, spaces_back, listed⟩ := h
  rename_i front body back
  have hback : skipSpace back = [] := by
    have := Json.skipSpace_append spaces_back []
    rwa [List.append_nil] at this
  unfold readDocument
  rw [Json.skipSpace_of_spaces spaces_front rfl]
  refine (settles_members listed back).bind fun d x _ hx => ?_
  cases hx
  dsimp only [id]
  rw [hback]
  exact settles_ok rfl

end Run

/-! The members of one choice. -/

def valuesOf (name : String) (entries : List Entry) : List (List Char) :=
  (entries.filter (·.name = name)).map Entry.value

/-- The default if there is no value, else what the only value says. -/
def Chosen {α : Type} (said : α → List Char → Prop) (default : α) :
    List (List Char) → α → Prop
  | [], a => a = default
  | [v], a => said a v
  | _, _ => False

section Choices

variable {α : Type} {name : String} {said : α → List Char → Prop} {e : Entry}
  {entries : List Entry} {o : Option α} {a : α}

theorem valuesOf_cons_of_eq (h : e.name = name) :
    valuesOf name (e :: entries) = e.value :: valuesOf name entries := by
  simp [valuesOf, h]

theorem valuesOf_cons_of_ne (h : e.name ≠ name) :
    valuesOf name (e :: entries) = valuesOf name entries := by
  simp [valuesOf, h]

theorem makesAll_some :
    MakesAll name said entries (some a) o ↔ valuesOf name entries = [] ∧ o = some a := by
  induction entries with
  | nil => simp [MakesAll, valuesOf]
  | cons e entries ih =>
    by_cases h : e.name = name
    · rw [valuesOf_cons_of_eq h]
      simp [MakesAll, Makes, h]
    · rw [valuesOf_cons_of_ne h, ← ih]
      simp [MakesAll, Makes, h]

theorem makesAll_none : MakesAll name said entries none o ↔
    match valuesOf name entries with
    | [] => o = none
    | [v] => ∃ a, said a v ∧ o = some a
    | _ => False := by
  induction entries with
  | nil => simp [MakesAll, valuesOf]
  | cons e entries ih =>
    by_cases h : e.name = name
    · rw [valuesOf_cons_of_eq h]
      simp only [MakesAll, Makes, h, if_pos]
      cases hvalues : valuesOf name entries with
      | nil => simp [makesAll_some, hvalues]
      | cons v values => simp [makesAll_some, hvalues]
    · rw [valuesOf_cons_of_ne h, ← ih]
      simp [MakesAll, Makes, h]

theorem chosen_iff (default : α) : Chosen said default (valuesOf name entries) a ↔
    ∃ o, MakesAll name said entries none o ∧ a = o.getD default := by
  simp only [makesAll_none]
  match valuesOf name entries with
  | [] => simp [Chosen]
  | [v] => simp [Chosen]
  | _ :: _ :: _ => simp [Chosen]

end Choices

structure Chooses (entries : List Entry) (p : Policy) : Prop where
  indexCheck : Chosen SaysCheck strict.indexCheck (valuesOf "index_check" entries) p.indexCheck
  strictAttributes :
    Chosen SaysFlag strict.strictAttributes (valuesOf "strict_attributes" entries)
      p.strictAttributes
  validatePatterns :
    Chosen SaysFlag strict.validatePatterns (valuesOf "validate_patterns" entries)
      p.validatePatterns

theorem chooses_iff {entries : List Entry} {p : Policy} :
    Chooses entries p ↔ ∃ d, TakesAll .empty entries d ∧ p = d.complete := by
  constructor
  · rintro ⟨hcheck, hstrict, hvalidate⟩
    obtain ⟨check, hchecks, hcheck⟩ := (chosen_iff _).mp hcheck
    obtain ⟨strict, hstricts, hstrict⟩ := (chosen_iff _).mp hstrict
    obtain ⟨validate, hvalidates, hvalidate⟩ := (chosen_iff _).mp hvalidate
    refine ⟨⟨check, strict, validate⟩, ⟨hchecks, hstricts, hvalidates⟩, ?_⟩
    rw [Policy.mk.injEq]
    exact ⟨hcheck, hstrict, hvalidate⟩
  · rintro ⟨d, ⟨hcheck, hstrict, hvalidate⟩, rfl⟩
    exact ⟨(chosen_iff _).mpr ⟨_, hcheck, rfl⟩, (chosen_iff _).mpr ⟨_, hstrict, rfl⟩,
      (chosen_iff _).mpr ⟨_, hvalidate, rfl⟩⟩

theorem fromJson_settles {text : String} {entries : List Entry}
    (h : ObjectText text.toList entries) :
    (∀ p, Policy.fromJson text = .ok p ↔ Chooses entries p) ∧
      ((∀ p, ¬Chooses entries p) →
        ∃ fault, Policy.fromJson text = .error (.malformedPolicy fault)) := by
  have hread := (settles_document h).congr fun p => chooses_iff
  have hreads (p : Policy) (hp : Chooses entries p) : Policy.fromJson text = .ok p := by
    obtain ⟨_, hp, ⟨⟩⟩ := hread.reads p hp
    unfold Policy.fromJson ofJson
    rw [hp]
    rfl
  have hfails (none : ∀ p, ¬Chooses entries p) :
      ∃ fault, Policy.fromJson text = .error (.malformedPolicy fault) := by
    obtain ⟨stop, hstop⟩ := hread.fails none
    unfold Policy.fromJson ofJson
    rw [hstop]
    exact ⟨_, rfl⟩
  refine ⟨fun p => ⟨fun hp => ?_, hreads p⟩, hfails⟩
  by_cases hsome : ∃ q, Chooses entries q
  · obtain ⟨q, hq⟩ := hsome
    cases hp.symm.trans (hreads q hq)
    exact hq
  · obtain ⟨fault, hfault⟩ := hfails (not_exists.mp hsome)
    cases hp.symm.trans hfault

end BeanRules.Policy
