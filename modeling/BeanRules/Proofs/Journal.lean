import BeanRules.Proofs.Destination
import BeanRules.Proofs.Draft
import Mathlib.Data.List.Forall2

/-!
What the caller of a script can tell of it: where each cursor was moved, where each draft was begun
and what was set on it since. A journal is written from the calls that succeeded and from nothing
else, and the declarations of a session are exactly those that its journal accounts for, however
the calls on different cursors and drafts interleave.
-/
namespace BeanRules

namespace Journal

inductive Held where
  | cursor (location : Location)
  | draft (begun : Nat)

/-- Drafts are known by the position of the entry that began them. -/
inductive Entry where
  | begun (location : Location) (kind : String)
  | edited (draft : Nat) (e : Edit)
  | completed (draft : Nat)
  | cascaded (location : Location)

namespace Entry

def draft? : Entry → Option Nat
  | edited n _ => some n
  | completed n => some n
  | _ => none

def editOf? (n : Nat) : Entry → Option Edit
  | edited m e => if m = n then some e else none
  | _ => none

def declares : Entry → Bool
  | completed _ => true
  | cascaded _ => true
  | _ => false

end Entry

def editsOf (n : Nat) (entries : List Entry) : List Edit := entries.filterMap (Entry.editOf? n)

/-- What an entry declares. A draft is declared where it was begun, whatever happened in between,
and holds what was set on it last. -/
inductive Declares (entries : List Entry) : Entry → Declaration → Prop where
  | cascade (l : Location) : Declares entries (.cascaded l) (.cascade l)
  | constraint {n : Nat} {l : Location} {kind : String} {c : Constraint}
      (begun : entries[n]? = some (.begun l kind)) (holds : c.Holds kind (editsOf n entries)) :
      Declares entries (.completed n) (.constraint l c)

end Journal

structure Journal where
  held : String → Option Journal.Held
  entries : List Journal.Entry

namespace Journal

def start : Journal := ⟨fun _ => none, []⟩

def hold (j : Journal) (name : String) (h : Held) : Journal :=
  { j with held := fun other => if name = other then some h else j.held other }

@[simp] theorem held_hold (j : Journal) (name other : String) (h : Held) :
    (j.hold name h).held other = if name = other then some h else j.held other := rfl

def write (j : Journal) (e : Entry) : Journal := { j with entries := j.entries ++ [e] }

def begin (j : Journal) (on as kind : String) : Journal :=
  match j.held on with
  | some (.cursor l) => (j.write (.begun l kind)).hold as (.draft j.entries.length)
  | _ => j

def edit (j : Journal) (on as : String) (e : Edit) : Journal :=
  match j.held on with
  | some (.draft n) => (j.write (.edited n e)).hold as (.draft n)
  | _ => j

def follow (j : Journal) : Call → Journal
  | .root bean as => j.hold as (.cursor (.bean bean))
  | .move on as m =>
    match j.held on with
    | some (.cursor l) => (l.destination? m).elim j fun l' => j.hold as (.cursor l')
    | _ => j
  | .constraint on as kind => j.begin on as kind.name
  | .generic on as kind => j.begin on as kind
  | .set on as attr value => j.edit on as (.param attr value)
  | .edit on as e => j.edit on as e
  | .done on =>
    match j.held on with
    | some (.draft n) => j.write (.completed n)
    | _ => j
  | .valid on =>
    match j.held on with
    | some (.cursor l) => j.write (.cascaded l)
    | _ => j
  | _ => j

def ofCalls (calls : List Call) : Journal := calls.foldl follow start

theorem follow_begins {c : Call} {on as kind : String} {setters : Option Builtin}
    (h : c.begins? = some (on, as, kind, setters)) (j : Journal) :
    j.follow c = j.begin on as kind := by
  cases c with
  | constraint | generic =>
    cases h
    rfl
  | _ => cases h

theorem follow_edits {c : Call} {on as : String} {e : Edit} (h : c.edits? = some (on, as, e))
    (j : Journal) : j.follow c = j.edit on as e := by
  cases c with
  | set | edit =>
    cases h
    rfl
  | _ => cases h

section Entries

variable {entries : List Entry} {e : Entry} {n : Nat} {d : Draft}

theorem editsOf_append_of_ne (h : e.draft? ≠ some n) :
    editsOf n (entries ++ [e]) = editsOf n entries := by
  unfold editsOf
  rw [List.filterMap_append]
  cases e with
  | edited m edit =>
    have hm : m ≠ n := fun hm => h (congrArg some hm)
    simp [Entry.editOf?, hm]
  | _ => simp [Entry.editOf?]

theorem editsOf_append_edited (edit : Edit) :
    editsOf n (entries ++ [.edited n edit]) = editsOf n entries ++ [edit] := by
  unfold editsOf
  rw [List.filterMap_append]
  simp [Entry.editOf?]

theorem editsOf_append_completed (m : Nat) :
    editsOf n (entries ++ [.completed m]) = editsOf n entries := by
  unfold editsOf
  rw [List.filterMap_append]
  simp [Entry.editOf?]

structure IsOpen (entries : List Entry) (n : Nat) (d : Draft) : Prop where
  begun : entries[n]? = some (.begun d.location d.constraint.kind)
  holds : d.constraint.Holds d.constraint.kind (editsOf n entries)
  open_ : .completed n ∉ entries

theorem IsOpen.lt (h : IsOpen entries n d) : n < entries.length :=
  (List.getElem?_eq_some_iff.mp h.begun).1

theorem getElem?_append_of_begun {l : Location} {kind : String}
    (h : entries[n]? = some (.begun l kind)) : (entries ++ [e])[n]? = some (.begun l kind) := by
  rw [List.getElem?_append_left (List.getElem?_eq_some_iff.mp h).1, h]

theorem IsOpen.append (h : IsOpen entries n d) (he : e.draft? ≠ some n) :
    IsOpen (entries ++ [e]) n d where
  begun := getElem?_append_of_begun h.begun
  holds := by
    rw [editsOf_append_of_ne he]
    exact h.holds
  open_ := by
    intro hmem
    rcases List.mem_append.mp hmem with hmem | hmem
    · exact h.open_ hmem
    · cases List.mem_singleton.mp hmem
      exact he rfl

theorem IsOpen.edit (h : IsOpen entries n d) (edit : Edit) :
    IsOpen (entries ++ [.edited n edit]) n (d.edit edit) where
  begun := by
    have hkind : (d.edit edit).constraint.kind = d.constraint.kind := Constraint.kind_apply _ _
    rw [hkind]
    exact getElem?_append_of_begun h.begun
  holds := by
    have hkind : (d.edit edit).constraint.kind = d.constraint.kind := Constraint.kind_apply _ _
    rw [editsOf_append_edited, hkind]
    exact h.holds.edit edit
  open_ := by
    intro hmem
    rcases List.mem_append.mp hmem with hmem | hmem
    · exact h.open_ hmem
    · cases List.mem_singleton.mp hmem

inductive Stands (entries : List Entry) : Handle → Held → Prop where
  | cursor (l : Location) : Stands entries (.cursor l) (.cursor l)
  | draft {n : Nat} {d : Draft} (isOpen : IsOpen entries n d) : Stands entries (.draft d) (.draft n)

theorem Stands.append {x : Handle} {y : Held} (h : Stands entries x y)
    (he : ∀ n, y = .draft n → e.draft? ≠ some n) : Stands (entries ++ [e]) x y := by
  cases h with
  | cursor l => exact .cursor l
  | draft isOpen => exact .draft (isOpen.append (he _ rfl))

def Grounded (entries : List Entry) : Prop :=
  ∀ e ∈ entries, ∀ n, e.draft? = some n → n < entries.length

theorem Grounded.append (h : Grounded entries) (he : ∀ n, e.draft? = some n → n < entries.length) :
    Grounded (entries ++ [e]) := by
  intro e' he' n hn
  have hlength : (entries ++ [e]).length = entries.length + 1 := List.length_append
  rcases List.mem_append.mp he' with hmem | hmem
  · have := h e' hmem n hn
    omega
  · cases List.mem_singleton.mp hmem
    have := he n hn
    omega

theorem Grounded.isOpen_begun (h : Grounded entries) (l : Location) (kind : String)
    (setters : Option Builtin) :
    IsOpen (entries ++ [.begun l kind]) entries.length ⟨l, .bare kind, setters⟩ where
  begun := by
    rw [List.getElem?_append_right (Nat.le_refl _)]
    simp [Constraint.bare]
  holds := by
    have hnone : editsOf entries.length (entries ++ [.begun l kind]) = [] := by
      rw [editsOf_append_of_ne (by simp [Entry.draft?])]
      unfold editsOf
      rw [List.filterMap_eq_nil_iff]
      intro e he
      cases e with
      | edited m edit =>
        have hm : m ≠ entries.length := Nat.ne_of_lt (h _ he m rfl)
        simp [Entry.editOf?, hm]
      | _ => rfl
    rw [hnone]
    exact Constraint.holds_bare kind
  open_ := by
    intro hmem
    rcases List.mem_append.mp hmem with hmem | hmem
    · exact Nat.lt_irrefl _ (h _ hmem _ rfl)
    · cases List.mem_singleton.mp hmem

/-- What was declared stays so, as nothing is set on a draft once it is completed. -/
theorem Declares.append {x : Entry} {declaration : Declaration}
    (h : Declares entries x declaration)
    (he : ∀ n, x = .completed n → ∀ edit, e ≠ .edited n edit) :
    Declares (entries ++ [e]) x declaration := by
  cases h with
  | cascade l => exact .cascade l
  | @constraint m l kind c begun holds =>
    refine .constraint (getElem?_append_of_begun begun) ?_
    cases e with
    | edited k edit =>
      have hk : k ≠ m := by
        rintro rfl
        exact he k rfl edit rfl
      rw [editsOf_append_of_ne (by simpa [Entry.draft?] using hk)]
      exact holds
    | completed k =>
      rw [editsOf_append_completed]
      exact holds
    | begun | cascaded =>
      rw [editsOf_append_of_ne (by simp [Entry.draft?])]
      exact holds

end Entries

/-- The declarations are those that the entries account for, in the same order. -/
def Accounts (entries : List Entry) (declarations : List Declaration) : Prop :=
  List.Forall₂ (Declares entries) (entries.filter Entry.declares) declarations

section Accounts

variable {entries : List Entry} {declarations : List Declaration} {e : Entry}

theorem Accounts.forall₂_append (h : Accounts entries declarations)
    (he : ∀ n, .completed n ∈ entries → ∀ edit, e ≠ .edited n edit) :
    List.Forall₂ (Declares (entries ++ [e])) (entries.filter Entry.declares) declarations := by
  have hmem : ∀ x ∈ entries.filter Entry.declares, x ∈ entries :=
    fun x hx => (List.mem_filter.mp hx).1
  refine List.Forall₂.imp ?_ ((List.forall₂_and_left _ _).mpr ⟨hmem, h⟩)
  rintro x declaration ⟨hx, hdeclares⟩
  apply hdeclares.append
  rintro n rfl
  exact he n hx

theorem Accounts.silent (h : Accounts entries declarations) (hsilent : e.declares = false)
    (he : ∀ n, .completed n ∈ entries → ∀ edit, e ≠ .edited n edit) :
    Accounts (entries ++ [e]) declarations := by
  unfold Accounts
  rw [List.filter_append, List.filter_singleton, hsilent]
  simpa using h.forall₂_append he

theorem Accounts.declare {declaration : Declaration} (h : Accounts entries declarations)
    (hdeclares : e.declares = true) (hdeclaration : Declares (entries ++ [e]) e declaration) :
    Accounts (entries ++ [e]) (declarations ++ [declaration]) := by
  unfold Accounts
  rw [List.filter_append, List.filter_singleton, hdeclares]
  refine List.rel_append (h.forall₂_append ?_) (.cons hdeclaration .nil)
  rintro n - edit rfl
  cases hdeclares

end Accounts

end Journal

end BeanRules
