import BeanRules.Proofs.Json.Writer

/-!
Paths into a document. What a path leads to is written out somewhere in the text of the document,
and behind the name of its member if that is how the path ends.
-/
namespace BeanRules.Json

inductive Step where
  | member (key : String)
  | item (index : Nat)

/-- Of several members with the name, the first. -/
def follow? : Json → Step → Option Json
  | object members, .member key => (members.find? (·.1 == key)).map (·.2)
  | array items, .item i => items[i]?
  | _, _ => none

def at? (j : Json) (path : List Step) : Option Json := path.foldlM follow? j

@[simp] theorem at?_nil (j : Json) : j.at? [] = some j := rfl

@[simp] theorem at?_cons (j : Json) (step : Step) (path : List Step) :
    j.at? (step :: path) = (j.follow? step).bind (·.at? path) := rfl

theorem at?_concat (j : Json) (path : List Step) (step : Step) :
    j.at? (path ++ [step]) = (j.at? path).bind (·.follow? step) := by
  unfold at?
  rw [List.foldlM_append]
  cases path.foldlM follow? j with
  | none => rfl
  | some j' => simp

section Within

variable {α : Type} {w : α → List Char} {x : α} {xs : List α}

theorem within_separated (h : x ∈ xs) : w x <:+: separated w xs := by
  induction xs with
  | nil => cases h
  | cons y rest ih =>
    cases rest with
    | nil =>
      cases List.mem_singleton.mp h
      exact List.infix_rfl
    | cons z rest =>
      rw [separated]
      · rcases List.mem_cons.mp h with rfl | h
        · exact (List.prefix_append _ _).isInfix
        · exact (ih h).trans ((List.suffix_cons _ _).trans (List.suffix_append _ _)).isInfix
      · exact List.cons_ne_nil _ _

theorem within_bracketed {opening closing : Char} {blank : List Char} (h : x ∈ xs) :
    w x <:+: bracketed w opening blank closing xs := by
  cases xs with
  | nil => cases h
  | cons y rest =>
    rw [bracketed]
    refine (within_separated h).trans ?_
    exact ⟨[opening], blank ++ [closing], by simp⟩

end Within

variable {j j' : Json} (sp : Spacing) (depth : Nat)

theorem writeMember_within {key : String} (h : j.follow? (.member key) = some j') :
    writeMember sp (depth + 1) (key, j') <:+: j.write sp depth := by
  cases j with
  | object members =>
    obtain ⟨⟨key', j''⟩, hm, rfl⟩ := Option.map_eq_some_iff.mp h
    have hkey : key' = key := by simpa using List.find?_some hm
    rw [write_object, ← hkey]
    refine List.IsInfix.trans ?_ (within_bracketed (List.mem_of_find?_eq_some hm))
    exact (List.suffix_append _ _).isInfix
  | _ => cases h

theorem write_within_of_follow? {step : Step} (h : j.follow? step = some j') :
    j'.write sp (depth + 1) <:+: j.write sp depth := by
  cases step with
  | member key =>
    refine List.IsInfix.trans ?_ (writeMember_within sp depth h)
    rw [writeMember]
    exact (List.suffix_append _ _).isInfix
  | item index =>
    cases j with
    | array items =>
      rw [write_array]
      refine List.IsInfix.trans ?_ (within_bracketed (List.mem_of_getElem? h))
      exact (List.suffix_append _ _).isInfix
    | _ => cases h

theorem write_within_of_at? {path : List Step} (h : j.at? path = some j') :
    j'.write sp (depth + path.length) <:+: j.write sp depth := by
  induction path generalizing j depth with
  | nil =>
    cases h
    exact List.infix_rfl
  | cons step rest ih =>
    rw [at?_cons, Option.bind_eq_some_iff] at h
    obtain ⟨next, hnext, hrest⟩ := h
    have hdepth : depth + (step :: rest).length = depth + 1 + rest.length := by
      rw [List.length_cons]
      omega
    rw [hdepth]
    exact (ih (depth + 1) hrest).trans (write_within_of_follow? sp depth hnext)

theorem writeMember_within_of_at? {path : List Step} {key : String}
    (h : j.at? (path ++ [.member key]) = some j') :
    writeMember sp (depth + path.length + 1) (key, j') <:+: j.write sp depth := by
  rw [at?_concat, Option.bind_eq_some_iff] at h
  obtain ⟨parent, hparent, hmember⟩ := h
  exact (writeMember_within sp _ hmember).trans (write_within_of_at? sp depth hparent)

end BeanRules.Json
