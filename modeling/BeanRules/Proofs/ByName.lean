import BeanRules.ByName
import Mathlib.Data.List.Induction
import Mathlib.Data.List.Nodup

/-!
A collection by name is what its look-ups find. A name leads to the entry of that name which was put
in last, whatever was put in under other names and in whichever order.
-/
namespace BeanRules

/-- The last entry of a list that has a name. -/
def IsLastNamed {α : Type} (name : α → String) (l : List α) (key : String) (a : α) : Prop :=
  ∃ before after, l = before ++ a :: after ∧ name a = key ∧ ∀ b ∈ after, name b ≠ key

theorem isLastNamed_append_singleton {α : Type} {name : α → String} {l : List α} {key : String}
    {a b : α} :
    IsLastNamed name (l ++ [b]) key a ↔
      if name b = key then a = b else IsLastNamed name l key a := by
  unfold IsLastNamed
  constructor
  · rintro ⟨before, after, hsplit, hname, hafter⟩
    rcases List.eq_nil_or_concat after with rfl | ⟨after, b', rfl⟩
    · obtain ⟨-, hb⟩ := List.append_inj' hsplit rfl
      cases hb
      rw [if_pos hname]
    · have hshift : before ++ a :: after.concat b' = (before ++ a :: after) ++ [b'] := by simp
      rw [hshift] at hsplit
      obtain ⟨hl, hb⟩ := List.append_inj' hsplit rfl
      cases hb
      rw [if_neg (hafter b (by simp))]
      exact ⟨before, after, hl, hname, fun x hx => hafter x (by simp [hx])⟩
  · split
    next hb =>
      rintro rfl
      exact ⟨l, [], rfl, hb, List.forall_mem_nil _⟩
    next hb =>
      rintro ⟨before, after, rfl, hname, hafter⟩
      refine ⟨before, after ++ [b], by simp, hname, ?_⟩
      rw [List.forall_mem_append]
      exact ⟨hafter, List.forall_mem_singleton.mpr hb⟩

namespace ByName

variable {α : Type} {name : α → String} {m n : ByName name} {key : String} {a b : α}

theorem find?_eq_some_iff : m.find? key = some a ↔ a ∈ m.entries ∧ name a = key := by
  constructor
  · intro h
    exact ⟨List.mem_of_find?_eq_some h, name_of_find? h⟩
  · obtain ⟨entries, ascending⟩ := m
    rintro ⟨hmem, rfl⟩
    unfold find?
    dsimp only at hmem ⊢
    induction entries with
    | nil => cases hmem
    | cons b rest ih =>
      obtain ⟨hb, hrest⟩ := List.pairwise_cons.mp ascending
      rcases List.mem_cons.mp hmem with rfl | hmem
      · simp
      · have hne : name b ≠ name a := String.ne_of_lt (hb a hmem)
        rw [List.find?_cons_of_neg (by simpa using hne)]
        exact ih hrest hmem

theorem contains_iff : m.contains key = true ↔ ∃ a, m.find? key = some a :=
  Option.isSome_iff_exists

theorem mem_names_iff : key ∈ m.names ↔ m.contains key = true := by
  rw [contains_iff]
  simp only [find?_eq_some_iff]
  exact List.mem_map

theorem nodup_entries (m : ByName name) : m.entries.Nodup :=
  m.ascending.imp fun hlt heq => String.ne_of_lt hlt (congrArg name heq)

/-- Both lists of entries are ascending, so with the same members they are the same. -/
theorem eq_of_find? (h : ∀ key, m.find? key = n.find? key) : m = n := by
  have hmem (a : α) : a ∈ m.entries ↔ a ∈ n.entries := by
    have hsame : m.find? (name a) = some a ↔ n.find? (name a) = some a := by rw [h]
    simpa [find?_eq_some_iff] using hsame
  apply ext
  apply List.Perm.eq_of_pairwise _ m.ascending n.ascending
  · exact (List.perm_ext_iff_of_nodup m.nodup_entries n.nodup_entries).mpr hmem
  · intro a b _ _ hab hba
    exact absurd (String.lt_trans hab hba) (String.lt_irrefl _)

theorem insert_comm (m : ByName name) (h : name a ≠ name b) :
    (m.insert a).insert b = (m.insert b).insert a := by
  apply eq_of_find?
  intro key
  simp only [find?_insert]
  split
  next hb =>
    have ha : name a ≠ key := fun ha => h (ha.trans hb.symm)
    rw [if_neg ha]
  next => rfl

theorem insert_erase (m : ByName name) (a : α) : (m.erase (name a)).insert a = m.insert a := by
  apply eq_of_find?
  intro key
  simp only [find?_insert, find?_erase]
  split <;> rfl

theorem erase_insert_of_ne (m : ByName name) (h : name a ≠ key) :
    (m.insert a).erase key = (m.erase key).insert a := by
  apply eq_of_find?
  intro other
  simp only [find?_insert, find?_erase]
  split
  next hother =>
    have ha : name a ≠ other := fun ha => h (ha.trans hother.symm)
    rw [if_neg ha]
  next => rfl

theorem insert_eq_self (h : m.find? (name a) = some a) : m.insert a = m := by
  apply eq_of_find?
  intro key
  rw [find?_insert]
  split
  next hkey => rw [← hkey, h]
  next => rfl

theorem find?_foldl_insert_eq_some_iff {l : List α} :
    (l.foldl insert m).find? key = some a ↔
      IsLastNamed name l key a ∨ (∀ b ∈ l, name b ≠ key) ∧ m.find? key = some a := by
  induction l using List.reverseRecOn with
  | nil => simp [IsLastNamed]
  | append_singleton l b ih =>
    rw [List.foldl_append, List.foldl_cons, List.foldl_nil, find?_insert,
      isLastNamed_append_singleton]
    have hnone : (∀ x ∈ l ++ [b], name x ≠ key) ↔ (∀ x ∈ l, name x ≠ key) ∧ name b ≠ key := by
      rw [List.forall_mem_append, List.forall_mem_singleton]
    rw [hnone]
    by_cases hb : name b = key
    · simp [hb, eq_comm (a := a)]
    · simp [hb, ih]

theorem foldl_insert_perm {l l' : List α} (h : l.Perm l') (distinct : (l.map name).Nodup)
    (m : ByName name) : l.foldl insert m = l'.foldl insert m := by
  apply h.foldl_eq'
  intro a ha b hb m
  by_cases hname : name a = name b
  · rw [List.inj_on_of_nodup_map distinct ha hb hname]
  · exact m.insert_comm hname

end ByName

end BeanRules
