import BeanRules.Proofs.Spelling.Grammar

/-!
Where the last path of a spelling ends. If no bracket is open there, then what follows spells a type
of its own; in brackets it does not.
-/
namespace BeanRules.Spelling

open Text (Balanced closing?)

section LastPath

variable {s u v a r : List Char} {l : List (List Char)} {k : Prototype} {o c : Char}

/-- The last path of a text ends between `u` and `v`. -/
def LastPath (s u v : List Char) : Prop := s = u ++ ':' :: ':' :: v ∧ ':' ∉ v

/-- A colon is never alone where the last one of a text stands. -/
def Parted (s : List Char) : Prop := ':' ∉ s ∨ ∃ u v, LastPath s u v

/-- What follows the last path spells a type if no bracket is open there. -/
def Trails (s : List Char) : Prop :=
  ':' ∉ s ∨ ∃ u v, LastPath s u v ∧ (Balanced u → TypeText v)

theorem Trails.parted (h : Trails s) : Parted s :=
  h.imp_right fun ⟨u, v, last, _⟩ => ⟨u, v, last⟩

theorem LastPath.behind (h : LastPath s u v) (a : List Char) : LastPath (a ++ s) (a ++ u) v := by
  refine ⟨?_, h.2⟩
  rw [h.1, List.append_assoc]

theorem LastPath.before (h : LastPath s u v) (hr : ':' ∉ r) : LastPath (s ++ r) u (v ++ r) := by
  refine ⟨?_, by simp [h.2, hr]⟩
  rw [h.1, List.append_assoc, List.cons_append, List.cons_append]

theorem Parted.append (ha : Parted a) (hs : Parted s) : Parted (a ++ s) := by
  rcases hs with hs | ⟨u, v, last⟩
  · rcases ha with ha | ⟨u, v, last⟩
    · exact .inl (by simp [ha, hs])
    · exact .inr ⟨u, v ++ s, last.before hs⟩
  · exact .inr ⟨a ++ u, v, last.behind a⟩

theorem lasting_parted : Lasting Parted :=
  ⟨fun _ h => .inl h.colon_not_mem, fun _ _ => Parted.append⟩

theorem LastPath.inside (last : LastPath s u v) (balanced : Balanced s) (ha : Balanced a)
    (pair : closing? o = some c) (hr : ':' ∉ r) :
    LastPath (a ++ o :: (s ++ r)) (a ++ o :: u) (v ++ r) ∧ ¬Balanced (a ++ o :: u) := by
  constructor
  · have hwhole := (last.before hr).behind (a ++ [o])
    simpa using hwhole
  · rw [last.1] at balanced
    exact Text.not_balanced_of_inside ha pair balanced

theorem Trails.enclosed (parted : Parted s) (balanced : Balanced s) (pair : closing? o = some c)
    (colons : ':' ∉ [o, c]) : Trails (o :: (s ++ [c])) := by
  simp only [List.mem_cons, List.not_mem_nil, or_false, not_or] at colons
  rcases parted with hs | ⟨u, v, last⟩
  · exact .inl (by simp [hs, colons])
  · obtain ⟨hlast, hopen⟩ := last.inside (a := []) balanced rfl pair (r := [c]) (by simp [colons])
    exact .inr ⟨_, _, hlast, fun h => absurd h hopen⟩

theorem Trails.behind (h : Trails s) (ha : Balanced a) (hcolon : ':' ∉ a ∨ ':' ∈ s) :
    Trails (a ++ s) := by
  rcases h with hs | ⟨u, v, last, spelled⟩
  · exact .inl (by simp [hs, hcolon.resolve_right hs])
  · exact .inr ⟨a ++ u, v, last.behind a, fun hu => spelled (ha.append_iff.mp hu)⟩

theorem mem_tupleItems {x : Char} (h : a ∈ l) (hx : x ∈ a) : x ∈ tupleItems l := by
  unfold tupleItems
  split
  · cases List.mem_singleton.mp h
    exact List.mem_append_left _ hx
  · exact Text.mem_intercalate_of_mem h hx

theorem Prototype.mem_text {x : Char} (h : a ∈ k.types) (hx : x ∈ a) : x ∈ k.text := by
  rcases List.mem_append.mp h with hparam | hresult
  · have harguments : x ∈ k.arguments :=
      Text.mem_intercalate_of_mem (List.mem_append_left _ hparam) hx
    simp [text, harguments]
  · have harrow : x ∈ k.arrow := by
      unfold arrow
      rw [Option.mem_toList.mp hresult]
      exact List.mem_append_right _ hx
    simp [text, harrow]

theorem Prototype.trails_arrow (ih : ∀ a ∈ k.types, Trails a) : Trails k.arrow := by
  unfold arrow
  split
  · exact .inl (by simp)
  next r hresult =>
    have hr : r ∈ k.types := List.mem_append_right _ (by simp [hresult])
    exact (ih r hr).behind rfl (.inl (by simp))

/-- A function with a path in its types. The result comes last, so a path in it decides; a path
among the parameters stands in brackets. -/
theorem Prototype.trails_text (types : ∀ a ∈ k.types, TypeText a)
    (ih : ∀ a ∈ k.types, '<' ∉ a → Trails a) (ha : Balanced a) (unapplied : '<' ∉ a ++ k.text)
    (hcolon : ':' ∈ k.text) : Trails (a ++ k.text) := by
  have hbalanced := fun b hb => (types b hb).balanced
  have htrails : ∀ b ∈ k.types, Trails b := fun b hb =>
    ih b hb fun hmem => unapplied (List.mem_append_right _ (mem_text hb hmem))
  have hargs := lasting_balanced.arguments hbalanced
  by_cases harrow : ':' ∈ k.arrow
  · rw [text_eq, ← List.append_assoc]
    exact (trails_arrow htrails).behind (ha.append (hargs.enclosed rfl)) (.inr harrow)
  · rcases lasting_parted.arguments fun b hb => (htrails b hb).parted with hnone | ⟨u, v, last⟩
    · simp [text, hnone, harrow] at hcolon
    · obtain ⟨hlast, hleft⟩ := last.inside hargs ha (o := '(') rfl (r := ')' :: k.arrow)
        (by simp [harrow])
      exact .inr ⟨_, _, hlast, fun h => absurd h hleft⟩

/-- The last of the bounds has a path, so the last path of all is in it. -/
theorem trails_bounds {bounds : List (List Char)} (present : bounds ≠ [])
    (types : ∀ a ∈ bounds, TypeText a) (qualified : ∀ a ∈ bounds, Qualified a)
    (ih : ∀ a ∈ bounds, '<' ∉ a → Trails a) (ha : Balanced a)
    (unapplied : '<' ∉ a ++ [' ', '+', ' '].intercalate bounds) :
    Trails (a ++ [' ', '+', ' '].intercalate bounds) := by
  obtain ⟨more, last, rfl⟩ := (List.eq_nil_or_concat' bounds).resolve_left present
  have hplus : Balanced [' ', '+', ' '] := rfl
  obtain ⟨front, hbounds, hfront⟩ := Text.exists_intercalate_concat Text.balanced_nil hplus
    (fun _ _ => Balanced.append) (fun a ha => (types a (List.mem_append_left _ ha)).balanced) last
  have hmem : last ∈ more ++ [last] := List.mem_append_right _ List.mem_cons_self
  obtain ⟨w, rest, -, hlast⟩ := qualified last hmem
  have htrails := ih last hmem fun h => unapplied
    (List.mem_append_right _ (Text.mem_intercalate_of_mem hmem h))
  rw [hbounds, ← List.append_assoc]
  exact htrails.behind (ha.append hfront) (.inr (by simp [hlast]))

theorem TypeText.trails (h : TypeText s) (unapplied : '<' ∉ s) : Trails s := by
  induction h with
  | never => exact .inl (by simp)
  | @named p n path name =>
    rcases path.eq_nil_or with rfl | ⟨q, rfl⟩
    · exact .inl name.colon_not_mem
    · exact .inr ⟨q, n, ⟨by simp, name.colon_not_mem⟩, fun _ => .named .nil name⟩
  | applied path name present types ih => exact absurd (by simp) unapplied
  | @callable p n k path name types ih =>
    by_cases hcolon : ':' ∈ k.text
    · exact Prototype.trails_text types ih (path.balanced_of_segments.append name.balanced)
        unapplied hcolon
    · -- no type of it has a path, so the path in front is the last one, if there is any
      have htail : ':' ∉ n ++ k.text := by simp [name.colon_not_mem, hcolon]
      rcases path.eq_nil_or with rfl | ⟨q, rfl⟩
      · exact .inl htail
      · exact .inr ⟨q, n ++ k.text, ⟨by simp, htail⟩, fun _ => .callable .nil name types⟩
  | @function safety head k safe keyword types ih =>
    have hfront := (bare_of_mem_safetyWords _ safe).append keyword.bare
    by_cases hcolon : ':' ∈ k.text
    · exact Prototype.trails_text types ih hfront.balanced unapplied hcolon
    · exact .inl (by simpa [hcolon] using hfront.colon_not_mem)
  | pointer word target ih =>
    have hword := bare_of_mem_pointerWords _ word
    have htarget := ih fun hmem => unapplied (List.mem_append_right _ hmem)
    exact htarget.behind hword.balanced (.inl hword.colon_not_mem)
  | object present types qualified ih => exact trails_bounds present types qualified ih rfl unapplied
  | tuple types ih =>
    have hparted := lasting_parted.tupleItems fun a ha =>
      (ih a ha fun hmem => unapplied (by simp [mem_tupleItems ha hmem])).parted
    exact .enclosed hparted (lasting_balanced.tupleItems fun a ha => (types a ha).balanced) rfl
      (by simp)
  | slice item ih =>
    exact .enclosed (ih fun hmem => unapplied (by simp [hmem])).parted item.balanced rfl (by simp)
  | array item present digits ih =>
    have hlength := Bare.append (a := [';', ' ']) rfl (bare_of_isDigit digits)
    have hitem := ih fun hmem => unapplied (by simp [hmem])
    exact .enclosed (hitem.parted.append (.inl hlength.colon_not_mem))
      (item.balanced.append hlength.balanced) rfl (by simp)

end LastPath

end BeanRules.Spelling
