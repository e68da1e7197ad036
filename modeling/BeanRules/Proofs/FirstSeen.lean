import Mathlib.Data.List.Induction
import Mathlib.Data.List.Perm.Basic

/-!
Keys in the order in which they are first seen, and grouping by them. Groups keep every item with
all its repetitions, since a key is listed once and every item has one.
-/
namespace BeanRules

section FirstSeen

variable {κ : Type} [DecidableEq κ]

/-- A key goes to the end unless it was seen before. -/
def addNew (seen : List κ) (k : κ) : List κ := if k ∈ seen then seen else seen ++ [k]

theorem addNew_cons_of_ne {k first : κ} (h : k ≠ first) (seen : List κ) :
    addNew (first :: seen) k = first :: addNew seen k := by
  unfold addNew
  simp only [List.mem_cons, h, false_or]
  split <;> rfl

theorem foldl_addNew (seen keys : List κ) :
    keys.foldl addNew seen = seen ++ keys.eraseDups.filter (· ∉ seen) := by
  induction keys using List.reverseRecOn with
  | nil => simp
  | append_singleton keys k ih =>
    rw [List.foldl_append, ih, List.foldl_cons, List.foldl_nil, addNew, List.eraseDups_append]
    by_cases hseen : k ∈ seen <;> by_cases hkeys : k ∈ keys <;>
      simp [List.removeAll, List.eraseDups_cons, hseen, hkeys]

theorem foldl_addNew_nil (keys : List κ) : keys.foldl addNew [] = keys.eraseDups := by
  simp [foldl_addNew]

theorem nodup_foldl_addNew {seen : List κ} (h : seen.Nodup) (keys : List κ) :
    (keys.foldl addNew seen).Nodup := by
  induction keys generalizing seen with
  | nil => exact h
  | cons k rest ih =>
    apply ih
    unfold addNew
    split
    · exact h
    · rename_i hnew
      exact List.nodup_append.mpr ⟨h, List.pairwise_singleton _ _, by grind⟩

theorem nodup_eraseDups (keys : List κ) : keys.eraseDups.Nodup := by
  rw [← foldl_addNew_nil]
  exact nodup_foldl_addNew .nil keys

end FirstSeen

section Grouping

variable {α κ : Type} [DecidableEq κ] {key : α → κ}

theorem flatMap_filter_perm {keys : List κ} (nodup : keys.Nodup) {items : List α}
    (covered : ∀ a ∈ items, key a ∈ keys) :
    (keys.flatMap fun k => items.filter (key · = k)).Perm items := by
  induction keys generalizing items with
  | nil =>
    have hnone : items = [] := List.eq_nil_iff_forall_not_mem.mpr fun a ha => nomatch covered a ha
    rw [hnone]
    exact .nil
  | cons k rest ih =>
    obtain ⟨hk, hrest⟩ := List.nodup_cons.mp nodup
    have hcovered : ∀ a ∈ items.filter (fun a => !decide (key a = k)), key a ∈ rest := by grind
    have hothers := ih hrest hcovered
    -- The other groups do not meet the first, so taking that one away leaves them as they are.
    have hsame : ∀ k' ∈ rest, (items.filter fun a => !decide (key a = k)).filter (key · = k') =
        items.filter (key · = k') := by
      intro k' hk'
      rw [List.filter_filter]
      grind
    rw [List.flatMap_congr hsame] at hothers
    rw [List.flatMap_cons]
    exact (hothers.append_left _).trans (List.filter_append_perm _ items)

end Grouping

end BeanRules
