import BeanRules.Signature
import Mathlib.Data.List.Basic

/-!
Brackets that are closed in the order that their opening asks for, as a text is read from the left.
Angle brackets do not count, since the arrow in front of a result holds one that closes nothing.
What stands at the end of a balanced text is balanced exactly when the part before it is.
-/
namespace BeanRules.Text

def closing? : Char → Option Char
  | '(' => some ')'
  | '[' => some ']'
  | '\x7b' => some '\x7d'
  | _ => none

def isClosing (c : Char) : Bool := c == ')' || c == ']' || c == '\x7d'

def isBracket (c : Char) : Bool := (closing? c).isSome || isClosing c

/-- Reads a character while brackets are awaited, the one of the last opening first. -/
def awaitClosing (awaited : List Char) (c : Char) : Option (List Char) :=
  match closing? c with
  | some close => some (close :: awaited)
  | none =>
    if isClosing c then
      match awaited with
      | [] => none
      | close :: rest => if close = c then some rest else none
    else some awaited

def Balanced (s : List Char) : Prop := s.foldlM awaitClosing [] = some []

instance (s : List Char) : Decidable (Balanced s) := inferInstanceAs (Decidable (_ = _))

section Reading

variable {s a b awaited rest : List Char} {c o : Char}

theorem awaitClosing_cases (h : awaitClosing awaited c = some rest) :
    (∃ close, closing? c = some close ∧ rest = close :: awaited) ∨
      (closing? c = none ∧ isClosing c = true ∧ awaited = c :: rest) ∨
      (closing? c = none ∧ isClosing c = false ∧ rest = awaited) := by
  unfold awaitClosing at h
  split at h
  next close hopens => exact .inl ⟨close, hopens, (Option.some.inj h).symm⟩
  next hopens =>
    split at h
    next hcloses =>
      split at h
      · cases h
      · split at h
        next heq => exact .inr (.inl ⟨hopens, hcloses, by rw [heq, Option.some.inj h]⟩)
        next => cases h
    next hcloses =>
      exact .inr (.inr ⟨hopens, Bool.eq_false_iff.mpr hcloses, (Option.some.inj h).symm⟩)

theorem awaitClosing_opening (h : closing? o = some c) (awaited : List Char) :
    awaitClosing awaited o = some (c :: awaited) := by
  unfold awaitClosing
  rw [h]

theorem awaitClosing_awaited (h : closing? o = some c) (rest : List Char) :
    awaitClosing (c :: rest) c = some rest := by
  have hc : c = ')' ∨ c = ']' ∨ c = '\x7d' := by
    unfold closing? at h
    split at h <;> cases h <;> simp
  rcases hc with rfl | rfl | rfl <;> rfl

theorem awaitClosing_plain (h : isBracket c = false) (awaited : List Char) :
    awaitClosing awaited c = some awaited := by
  obtain ⟨hopens, hcloses⟩ := Bool.or_eq_false_iff.mp h
  unfold awaitClosing
  rw [Option.isNone_iff_eq_none.mp (Option.isSome_eq_false_iff.mp hopens), hcloses]
  rfl

/-- Brackets that are awaited behind all others do not matter as long as none is missing. -/
theorem awaitClosing_append (h : awaitClosing awaited c = some rest) (base : List Char) :
    awaitClosing (awaited ++ base) c = some (rest ++ base) := by
  rcases awaitClosing_cases h with ⟨close, hopens, rfl⟩ | ⟨hopens, hcloses, rfl⟩ |
    ⟨hopens, hcloses, rfl⟩
  · exact awaitClosing_opening hopens _
  · simp [awaitClosing, hopens, hcloses]
  · exact awaitClosing_plain (by simp [isBracket, hopens, hcloses]) _

theorem foldlM_awaitClosing_append (h : s.foldlM awaitClosing awaited = some rest)
    (base : List Char) : s.foldlM awaitClosing (awaited ++ base) = some (rest ++ base) := by
  induction s generalizing awaited with
  | nil =>
    cases h
    rfl
  | cons c s ih =>
    rw [List.foldlM_cons] at h ⊢
    obtain ⟨next, hnext, hrest⟩ := Option.bind_eq_some_iff.mp h
    rw [awaitClosing_append hnext]
    exact ih hrest

end Reading

section Balance

variable {s a b : List Char} {o c : Char}

theorem Balanced.foldlM (h : Balanced s) (awaited : List Char) :
    s.foldlM awaitClosing awaited = some awaited :=
  foldlM_awaitClosing_append h awaited

theorem balanced_nil : Balanced [] := rfl

theorem balanced_of_plain (h : ∀ c ∈ s, isBracket c = false) : Balanced s := by
  induction s with
  | nil => rfl
  | cons c s ih =>
    obtain ⟨hc, hs⟩ := List.forall_mem_cons.mp h
    unfold Balanced
    rw [List.foldlM_cons, awaitClosing_plain hc]
    exact ih hs

theorem Balanced.append_iff (h : Balanced a) : Balanced (a ++ b) ↔ Balanced b := by
  unfold Balanced
  rw [List.foldlM_append, h.foldlM]
  rfl

theorem Balanced.append (ha : Balanced a) (hb : Balanced b) : Balanced (a ++ b) :=
  ha.append_iff.mpr hb

/-- The parts of a balanced text are both balanced or neither is. -/
theorem Balanced.parts_iff (h : Balanced (a ++ b)) : Balanced b ↔ Balanced a := by
  constructor
  · intro hb
    unfold Balanced at h
    rw [List.foldlM_append] at h
    obtain ⟨awaited, ha, hrest⟩ := Option.bind_eq_some_iff.mp h
    rw [hb.foldlM] at hrest
    rwa [Option.some.inj hrest] at ha
  · exact fun ha => ha.append_iff.mp h

theorem Balanced.enclosed (h : Balanced s) (pair : closing? o = some c) :
    Balanced (o :: (s ++ [c])) := by
  unfold Balanced
  rw [List.foldlM_cons, awaitClosing_opening pair]
  change (s ++ [c]).foldlM awaitClosing [c] = some []
  rw [List.foldlM_append, h.foldlM]
  change [c].foldlM awaitClosing [c] = some []
  rw [List.foldlM_cons, awaitClosing_awaited pair]
  rfl

/-- Inside of brackets no text that began before them is balanced. -/
theorem not_balanced_of_inside (ha : Balanced a) (pair : closing? o = some c)
    (body : Balanced (s ++ b)) : ¬Balanced (a ++ o :: s) := by
  intro h
  unfold Balanced at h body
  rw [List.foldlM_append] at body
  obtain ⟨awaited, hs, -⟩ := Option.bind_eq_some_iff.mp body
  have hinside := foldlM_awaitClosing_append hs [c]
  rw [List.foldlM_append, ha.foldlM] at h
  change (o :: s).foldlM awaitClosing [] = some [] at h
  rw [List.foldlM_cons, awaitClosing_opening pair] at h
  change s.foldlM awaitClosing [c] = some [] at h
  rw [List.nil_append] at hinside
  rw [hinside] at h
  simp at h

end Balance

section Endings

variable {s a b awaited awaited' rest : List Char} {c o : Char}

/-- Closes what was opened before it and leaves nothing open. -/
def IsEnding (s : List Char) : Prop := ∃ awaited, s.foldlM awaitClosing awaited = some []

theorem Balanced.isEnding (h : Balanced s) : IsEnding s := ⟨[], h⟩

theorem Balanced.isEnding_right (h : Balanced (a ++ b)) : IsEnding b := by
  unfold Balanced at h
  rw [List.foldlM_append] at h
  obtain ⟨awaited, -, hrest⟩ := Option.bind_eq_some_iff.mp h
  exact ⟨awaited, hrest⟩

theorem IsEnding.append (ha : IsEnding a) (hb : IsEnding b) : IsEnding (a ++ b) := by
  obtain ⟨first, hfirst⟩ := ha
  obtain ⟨second, hsecond⟩ := hb
  refine ⟨first ++ second, ?_⟩
  rw [List.foldlM_append, foldlM_awaitClosing_append hfirst]
  exact hsecond

theorem awaitClosing_inj (h : awaitClosing awaited c = some rest)
    (h' : awaitClosing awaited' c = some rest) : awaited = awaited' := by
  -- the character alone decides which of the three cases it is, so only equal ones meet
  rcases awaitClosing_cases h with ⟨close, hopens, rfl⟩ | ⟨hopens, hcloses, rfl⟩ |
    ⟨hopens, hcloses, rfl⟩ <;>
  rcases awaitClosing_cases h' with ⟨close', hopens', heq⟩ | ⟨hopens', hcloses', rfl⟩ |
    ⟨hopens', hcloses', heq⟩ <;> simp_all

theorem foldlM_awaitClosing_inj (h : s.foldlM awaitClosing awaited = some rest)
    (h' : s.foldlM awaitClosing awaited' = some rest) : awaited = awaited' := by
  induction s generalizing awaited awaited' with
  | nil => exact (Option.some.inj h).trans (Option.some.inj h').symm
  | cons c s ih =>
    rw [List.foldlM_cons] at h h'
    obtain ⟨next, hnext, hrest⟩ := Option.bind_eq_some_iff.mp h
    obtain ⟨next', hnext', hrest'⟩ := Option.bind_eq_some_iff.mp h'
    cases ih hrest hrest'
    exact awaitClosing_inj hnext hnext'

theorem IsEnding.balanced (h : IsEnding s) (keeps : s.foldlM awaitClosing rest = some rest) :
    Balanced s := by
  obtain ⟨awaited, hs⟩ := h
  have hnone := foldlM_awaitClosing_inj (foldlM_awaitClosing_append hs rest) keeps
  rwa [List.append_left_eq_self.mp hnone] at hs

theorem IsEnding.balanced_append_iff (h : IsEnding a) :
    Balanced (a ++ b) ↔ Balanced a ∧ Balanced b := by
  constructor
  · intro hboth
    have ha : Balanced a := by
      obtain ⟨awaited, hs⟩ := h
      have hprefix := hboth
      unfold Balanced at hprefix
      rw [List.foldlM_append] at hprefix
      obtain ⟨left, hleft, -⟩ := Option.bind_eq_some_iff.mp hprefix
      have hnil := (foldlM_awaitClosing_append hleft awaited).symm.trans hs
      rwa [(List.append_eq_nil_iff.mp (Option.some.inj hnil)).1] at hleft
    exact ⟨ha, ha.append_iff.mp hboth⟩
  · exact fun ⟨ha, hb⟩ => ha.append hb

theorem IsEnding.balanced_enclosed_iff (h : IsEnding s) (pair : closing? o = some c) :
    Balanced (o :: (s ++ [c])) ↔ Balanced s := by
  constructor
  · intro hwhole
    unfold Balanced at hwhole
    rw [List.foldlM_cons, awaitClosing_opening pair] at hwhole
    change (s ++ [c]).foldlM awaitClosing [c] = some [] at hwhole
    rw [List.foldlM_append] at hwhole
    obtain ⟨rest, hs, hlast⟩ := Option.bind_eq_some_iff.mp hwhole
    rw [List.foldlM_cons] at hlast
    obtain ⟨none, hclosed, hnone⟩ := Option.bind_eq_some_iff.mp hlast
    cases hnone
    cases awaitClosing_inj hclosed (awaitClosing_awaited pair [])
    exact h.balanced hs
  · exact fun hs => hs.enclosed pair

end Endings

section Lists

variable {α : Type} {sep : List α} {l : List (List α)}

/-- What holds of the parts and does not get lost when texts are put together holds of a list. -/
theorem intercalate_of_append {p : List α → Prop} (nil : p []) (separator : p sep)
    (append : ∀ a b, p a → p b → p (a ++ b)) (items : ∀ a ∈ l, p a) : p (sep.intercalate l) := by
  induction l with
  | nil => exact nil
  | cons a l ih =>
    obtain ⟨ha, hl⟩ := List.forall_mem_cons.mp items
    cases l with
    | nil => simpa using ha
    | cons b l =>
      rw [List.intercalate_cons_cons]
      exact append _ _ (append _ _ ha separator) (ih hl)

theorem exists_intercalate_concat {p : List α → Prop} (nil : p []) (separator : p sep)
    (append : ∀ a b, p a → p b → p (a ++ b)) (items : ∀ a ∈ l, p a) (last : List α) :
    ∃ front, sep.intercalate (l ++ [last]) = front ++ last ∧ p front := by
  induction l with
  | nil => exact ⟨[], by simp, nil⟩
  | cons a l ih =>
    obtain ⟨ha, hl⟩ := List.forall_mem_cons.mp items
    obtain ⟨front, hlast, hfront⟩ := ih hl
    refine ⟨a ++ sep ++ front, ?_, append _ _ (append _ _ ha separator) hfront⟩
    cases hrest : l ++ [last] with
    | nil => simp at hrest
    | cons b rest =>
      rw [hrest] at hlast
      rw [List.cons_append, hrest, List.intercalate_cons_cons, hlast, List.append_assoc _ front]

theorem mem_intercalate_of_mem {a : List α} {x : α} (h : a ∈ l) (hx : x ∈ a) :
    x ∈ sep.intercalate l := by
  induction l with
  | nil => cases h
  | cons b l ih =>
    cases l with
    | nil =>
      cases List.mem_singleton.mp h
      simpa using hx
    | cons b' l =>
      rw [List.intercalate_cons_cons]
      rcases List.mem_cons.mp h with rfl | hrest
      · exact List.mem_append_left _ (List.mem_append_left _ hx)
      · exact List.mem_append_right _ (ih hrest)

theorem balanced_intercalate_iff {sep : List Char} {l : List (List Char)} (separator : Balanced sep)
    (endings : ∀ a ∈ l, IsEnding a) : Balanced (sep.intercalate l) ↔ ∀ a ∈ l, Balanced a := by
  induction l with
  | nil => simp [balanced_nil]
  | cons a l ih =>
    obtain ⟨ha, hl⟩ := List.forall_mem_cons.mp endings
    cases l with
    | nil => simp
    | cons b l =>
      rw [List.intercalate_cons_cons, List.append_assoc, ha.balanced_append_iff,
        separator.append_iff, ih hl]
      exact List.forall_mem_cons.symm

end Lists

end BeanRules.Text
