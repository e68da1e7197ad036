import BeanRules.Proofs.Naming
import BeanRules.Proofs.Spelling.LastPath

/-!
How types are shown. A name with parameters is shown as it is; of any other name what follows the
last path is shown, wherever that path stands. So a module path is all that gets lost if the only
path of a name is the one in front. If the last path stands in brackets, they are torn apart.
-/
namespace BeanRules

open Text (Balanced IsEnding)
open Spelling

/-- The only path of a text, if it has any, is a module path at its front. -/
def PathInFront (s : List Char) : Prop := ∃ p rest, s = p ++ rest ∧ ModulePath p ∧ ':' ∉ rest

namespace TypeRef

section AfterLastPath

variable {best s u v : List Char} {c : Char}

theorem afterLastPath_cons_cases (best : List Char) (c : Char) (s : List Char) :
    (∃ t, s = ':' :: t ∧ afterLastPath best (c :: s) = afterLastPath t s) ∨
      afterLastPath best (c :: s) = afterLastPath best s := by
  rw [afterLastPath.eq_def]
  dsimp only
  split
  next t => exact .inl ⟨t, rfl, rfl⟩
  next => exact .inr rfl

theorem afterLastPath_of_colon_not_mem (h : ':' ∉ s) : afterLastPath best (c :: s) = best := by
  induction s generalizing c with
  | nil =>
    rcases afterLastPath_cons_cases best c [] with ⟨t, hs, -⟩ | hnext
    · cases hs
    · exact hnext
  | cons d s ih =>
    rcases afterLastPath_cons_cases best c (d :: s) with ⟨t, hs, -⟩ | hnext
    · simp [hs] at h
    · rw [hnext]
      exact ih fun hmem => h (List.mem_cons_of_mem _ hmem)

theorem afterLastPath_of_lastPath (h : LastPath s u v) : afterLastPath best s = v := by
  obtain ⟨rfl, hv⟩ := h
  -- a separator before the last one changes the answer so far, so that has to stay open
  induction u generalizing best with
  | nil =>
    change afterLastPath v (':' :: v) = v
    exact afterLastPath_of_colon_not_mem hv
  | cons c u ih =>
    rcases afterLastPath_cons_cases best c (u ++ ':' :: ':' :: v) with ⟨t, -, hnext⟩ | hnext
    · exact hnext.trans ih
    · exact hnext.trans ih

theorem afterLastPath_suffix (best s : List Char) :
    afterLastPath best s = best ∨ afterLastPath best s <:+ s := by
  induction s generalizing best with
  | nil => exact .inl rfl
  | cons c s ih =>
    rcases afterLastPath_cons_cases best c s with ⟨t, rfl, hnext⟩ | hnext
    · rw [hnext]
      rcases ih t with hall | hend
      · rw [hall]
        exact .inr ((List.suffix_cons _ _).trans (List.suffix_cons _ _))
      · exact .inr (hend.trans (List.suffix_cons _ _))
    · rw [hnext]
      exact (ih best).imp_right fun hend => hend.trans (List.suffix_cons _ _)

end AfterLastPath

def full (t : TypeRef) : List Char := t.name.toList

def shown (t : TypeRef) : List Char := (toString t).toList

variable {t : TypeRef} {u v cut : List Char}

theorem shown_of_applied (h : '<' ∈ t.full) : t.shown = t.full := by
  have hcontains : t.name.toList.contains '<' = true := List.contains_iff_mem.mpr h
  change t.shortName.toList = t.full
  unfold shortName
  rw [if_pos hcontains]
  rfl

theorem shown_of_unapplied (h : '<' ∉ t.full) : t.shown = afterLastPath t.full t.full := by
  have hcontains : ¬t.name.toList.contains '<' = true := fun hmem =>
    h (List.contains_iff_mem.mp hmem)
  change t.shortName.toList = _
  unfold shortName
  rw [if_neg hcontains, String.toList_ofList]
  rfl

theorem shown_of_colon_not_mem (h : ':' ∉ t.full) : t.shown = t.full := by
  by_cases happlied : '<' ∈ t.full
  · exact shown_of_applied happlied
  · rw [shown_of_unapplied happlied]
    cases hfull : t.full with
    | nil => rfl
    | cons c s => exact afterLastPath_of_colon_not_mem (fun hmem => h (by simp [hfull, hmem]))

theorem shown_of_lastPath (h : '<' ∉ t.full) (last : LastPath t.full u v) : t.shown = v := by
  rw [shown_of_unapplied h, afterLastPath_of_lastPath last]

theorem shown_suffix (t : TypeRef) : t.shown <:+ t.full := by
  by_cases h : '<' ∈ t.full
  · exact ⟨[], shown_of_applied h⟩
  · rcases afterLastPath_suffix t.full t.full with hall | hend
    · exact ⟨[], (shown_of_unapplied h).trans hall⟩
    · rwa [← shown_of_unapplied h] at hend

theorem cut_eq_of_lastPath (h : '<' ∉ t.full) (last : LastPath t.full u v)
    (hcut : t.full = cut ++ t.shown) : cut = u ++ [':', ':'] := by
  rw [shown_of_lastPath h last, last.1] at hcut
  have hparts : u ++ [':', ':'] ++ v = cut ++ v := by simpa using hcut
  exact (List.append_cancel_right hparts).symm

theorem cut_at_last (spelled : TypeText t.full) (h : '<' ∉ t.full)
    (hcut : t.full = cut ++ t.shown) : ':' ∉ t.shown ∧ (cut = [] ∨ [':', ':'] <:+ cut) := by
  rcases spelled.trails h with hnone | ⟨u, v, last, -⟩
  · rw [shown_of_colon_not_mem hnone] at hcut ⊢
    exact ⟨hnone, .inl (List.self_eq_append_left.mp hcut)⟩
  · rw [cut_eq_of_lastPath h last hcut, shown_of_lastPath h last]
    exact ⟨last.2, .inr (List.suffix_append _ _)⟩

theorem modulePath_cut_iff (spelled : TypeText t.full) (hcut : t.full = cut ++ t.shown) :
    ModulePath cut ↔ '<' ∈ t.full ∨ PathInFront t.full := by
  constructor
  · intro path
    by_cases happlied : '<' ∈ t.full
    · exact .inl happlied
    · refine .inr ⟨cut, t.shown, hcut, path, ?_⟩
      rcases spelled.trails happlied with hnone | ⟨u, v, last, -⟩
      · rwa [shown_of_colon_not_mem hnone]
      · rw [shown_of_lastPath happlied last]
        exact last.2
  · intro h
    by_cases hall : t.shown = t.full
    · rw [hall] at hcut
      rw [List.self_eq_append_left.mp hcut]
      exact .nil
    · have happlied : '<' ∉ t.full := fun hmem => hall (shown_of_applied hmem)
      obtain ⟨p, rest, hfull, path, hrest⟩ := h.resolve_left happlied
      rcases PathOf.eq_nil_or path with rfl | ⟨q, rfl⟩
      · rw [List.nil_append] at hfull
        exact absurd (shown_of_colon_not_mem (hfull ▸ hrest)) hall
      · rwa [cut_eq_of_lastPath happlied ⟨by simpa using hfull, hrest⟩ hcut]

theorem cut_eq_nil (h : '<' ∈ t.full) (hcut : t.full = cut ++ t.shown) : cut = [] := by
  rw [shown_of_applied h] at hcut
  exact List.self_eq_append_left.mp hcut

theorem balanced_shown_iff (balanced : Balanced t.full) (hcut : t.full = cut ++ t.shown) :
    Balanced t.shown ↔ Balanced cut := by
  rw [hcut] at balanced
  exact balanced.parts_iff

theorem typeText_shown_iff (spelled : TypeText t.full) (hcut : t.full = cut ++ t.shown) :
    TypeText t.shown ↔ Balanced cut := by
  constructor
  · exact fun h => (balanced_shown_iff spelled.balanced hcut).mp h.balanced
  · intro hbalanced
    by_cases happlied : '<' ∈ t.full
    · rwa [shown_of_applied happlied]
    · rcases spelled.trails happlied with hnone | ⟨u, v, last, htail⟩
      · rwa [shown_of_colon_not_mem hnone]
      · rw [cut_eq_of_lastPath happlied last hcut] at hbalanced
        rw [shown_of_lastPath happlied last]
        exact htail (hbalanced.parts_iff.mp rfl)

/-- Where the type is shown, nothing of its name but a module path is left out. -/
def LosesOnlyPath (t : TypeRef) : Prop :=
  ∃ p, t.full = p ++ t.shown ∧ ModulePath p ∧ ('<' ∈ t.full → p = [])

theorem losesOnlyPath_iff (spelled : TypeText t.full) :
    t.LosesOnlyPath ↔ '<' ∈ t.full ∨ PathInFront t.full := by
  constructor
  · rintro ⟨p, hcut, path, -⟩
    exact (modulePath_cut_iff spelled hcut).mp path
  · intro h
    obtain ⟨cut, hcut⟩ := t.shown_suffix
    exact ⟨cut, hcut.symm, (modulePath_cut_iff spelled hcut.symm).mpr h,
      fun happlied => cut_eq_nil happlied hcut.symm⟩

theorem LosesOnlyPath.balanced (h : t.LosesOnlyPath) (full : Balanced t.full) :
    Balanced t.shown := by
  obtain ⟨p, hcut, path, -⟩ := h
  exact (balanced_shown_iff full hcut).mpr path.balanced

theorem LosesOnlyPath.typeText (h : t.LosesOnlyPath) (full : TypeText t.full) :
    TypeText t.shown := by
  obtain ⟨p, hcut, path, -⟩ := h
  exact (typeText_shown_iff full hcut).mpr path.balanced

end TypeRef

namespace Signature

def types (s : Signature) : List TypeRef := s.bean :: s.parameterTypes

theorem toList_display (s : Signature) :
    (toString s).toList = s.bean.shown ++ (['.'] ++ s.name.toList ++
      '(' :: (commas (s.parameterTypes.map TypeRef.shown) ++ [')'])) := by
  change s.display.toList = _
  have hparams : (s.parameterTypes.map TypeRef.shortName).map String.toList =
      s.parameterTypes.map TypeRef.shown := List.map_map
  have hname : toString s.name = s.name := rfl
  simp only [display, String.toList_append, String.toList_intercalate, hparams, hname,
    List.append_assoc]
  rfl

theorem continuesWord_of_identifierPart {c : Char} (h : IdentifierPart c) :
    continuesWord c = true := by
  have hpart := identifierPart_iff.mpr h
  unfold Char.isAlphanum at hpart
  unfold continuesWord startsWord
  grind

theorem balanced_name (s : Signature) : Balanced s.name.toList := by
  obtain ⟨c, rest, hname, hstart, hparts⟩ := isIdentifier_iff.mp s.named
  apply (bare_of_continuesWord _).balanced
  rw [hname]
  intro d hd
  rcases List.mem_cons.mp hd with rfl | hd
  · exact continuesWord_of_identifierPart (.inl hstart)
  · exact continuesWord_of_identifierPart (hparts d hd)

theorem balanced_display_iff (s : Signature) (balanced : ∀ t ∈ s.types, Balanced t.full) :
    Balanced (toString s).toList ↔ ∀ t ∈ s.types, Balanced t.shown := by
  have hending (t : TypeRef) (ht : t ∈ s.types) : IsEnding t.shown := by
    obtain ⟨cut, hcut⟩ := t.shown_suffix
    exact Balanced.isEnding_right (a := cut) (hcut ▸ balanced t ht)
  have hparams : ∀ a ∈ s.parameterTypes.map TypeRef.shown, IsEnding a := by
    intro a ha
    obtain ⟨t, ht, rfl⟩ := List.mem_map.mp ha
    exact hending t (List.mem_cons_of_mem _ ht)
  have hseparator : Balanced [',', ' '] := rfl
  have hcommas := lasting_isEnding.commas hparams
  have hfront : Balanced (['.'] ++ s.name.toList) := Balanced.append rfl s.balanced_name
  rw [toList_display, (hending s.bean List.mem_cons_self).balanced_append_iff, hfront.append_iff,
    hcommas.balanced_enclosed_iff rfl, commas, Text.balanced_intercalate_iff hseparator hparams,
    types, List.forall_mem_cons, List.forall_mem_map]

end Signature

/-- What becomes of a name. If it has parameters, or if its only path is the one in front, nothing
but a module path gets lost, and then what is shown spells a type with brackets that match. In any
case all up to the last path gets lost, so the rest is a spelling exactly when no bracket is open
there. The brackets of a signature match exactly when those of each of its types do. -/
theorem names_shown (t : TypeRef) (s : Signature) :
    (TypeText t.full → (t.LosesOnlyPath ↔ '<' ∈ t.full ∨ PathInFront t.full)) ∧
    (t.LosesOnlyPath →
      (Balanced t.full → Balanced t.shown) ∧ (TypeText t.full → TypeText t.shown)) ∧
    (∃ cut, t.full = cut ++ t.shown ∧ ('<' ∈ t.full → cut = []) ∧
      (Balanced t.full → (Balanced t.shown ↔ Balanced cut)) ∧
      (TypeText t.full → (TypeText t.shown ↔ Balanced cut) ∧
        ('<' ∉ t.full → ':' ∉ t.shown ∧ (cut = [] ∨ [':', ':'] <:+ cut)))) ∧
    ((∀ u ∈ s.types, Balanced u.full) →
      (Balanced (toString s).toList ↔ ∀ u ∈ s.types, Balanced u.shown)) := by
  refine ⟨TypeRef.losesOnlyPath_iff, fun h => ⟨h.balanced, h.typeText⟩, ?_, s.balanced_display_iff⟩
  obtain ⟨cut, hcut⟩ := t.shown_suffix
  have hfull : t.full = cut ++ t.shown := hcut.symm
  exact ⟨cut, hfull, fun happlied => TypeRef.cut_eq_nil happlied hfull,
    fun h => TypeRef.balanced_shown_iff h hfull,
    fun h => ⟨TypeRef.typeText_shown_iff h hfull,
      fun happlied => TypeRef.cut_at_last h happlied hfull⟩⟩

namespace TypeRef

def plainText : TypeRef := ⟨"alloc::string::String", 0⟩

def entry : TypeRef := ⟨"(i32, alloc::string::String)", 1⟩

def texts : TypeRef := ⟨"alloc::vec::Vec<alloc::string::String>", 2⟩

end TypeRef

def postsEntry : Signature := ⟨⟨"bank::Ledger", 3⟩, "postsEntry", [.plainText, .entry], rfl⟩

theorem typeText_plainText : TypeText TypeRef.plainText.full := by
  have hpath : PathOf Segment ("alloc".toList ++ ':' :: ':' :: ("string".toList ++ [':', ':'])) :=
    .cons (.named rfl) (.cons (.named rfl) .nil)
  exact .named hpath (.named rfl)

theorem pathInFront_plainText : PathInFront TypeRef.plainText.full :=
  ⟨"alloc".toList ++ ':' :: ':' :: ("string".toList ++ [':', ':']), "String".toList, rfl,
    .cons rfl (.cons rfl .nil), by decide⟩

theorem typeText_entry : TypeText TypeRef.entry.full := by
  have hnumber : TypeText "i32".toList := .named .nil (.named rfl)
  have hitems : ∀ a ∈ ["i32".toList, TypeRef.plainText.full], TypeText a := by
    simpa using ⟨hnumber, typeText_plainText⟩
  exact .tuple hitems

theorem not_balanced_cut_entry {cut : List Char}
    (h : TypeRef.entry.full = cut ++ TypeRef.entry.shown) : ¬Balanced cut := by
  have hcut : TypeRef.entry.full = "(i32, alloc::string::".toList ++ TypeRef.entry.shown := rfl
  rw [← List.append_cancel_right (hcut.symm.trans h)]
  decide

theorem typeText_postsEntry : ∀ t ∈ postsEntry.types, TypeText t.full := by
  have hbean : TypeText (TypeRef.full ⟨"bank::Ledger", 3⟩) :=
    .named (p := "bank::".toList) (.cons (w := "bank".toList) (.named rfl) .nil) (.named rfl)
  simpa [postsEntry, Signature.types] using ⟨hbean, typeText_plainText, typeText_entry⟩

theorem names_shown_entry :
    ('<' ∈ TypeRef.texts.full ∧ TypeRef.texts.shown = TypeRef.texts.full) ∧
      (TypeText TypeRef.plainText.full ∧ PathInFront TypeRef.plainText.full ∧
        TypeRef.plainText.LosesOnlyPath ∧ TypeText TypeRef.plainText.shown) ∧
      (TypeText TypeRef.entry.full ∧ '<' ∉ TypeRef.entry.full ∧ ':' ∉ TypeRef.entry.shown ∧
        ¬Balanced TypeRef.entry.shown ∧ ¬TypeText TypeRef.entry.shown) ∧
      (∀ t ∈ postsEntry.types, Balanced t.full) ∧ ¬Balanced (toString postsEntry).toList := by
  have happlied : '<' ∈ TypeRef.texts.full := by decide
  have hunapplied : '<' ∉ TypeRef.entry.full := by decide
  have hbalanced : ∀ t ∈ postsEntry.types, Balanced t.full :=
    fun t ht => (typeText_postsEntry t ht).balanced
  refine ⟨⟨happlied, ?_⟩, ⟨typeText_plainText, pathInFront_plainText, ?_⟩, ?_⟩
  · obtain ⟨-, -, ⟨cut, hcut, hnone, -⟩, -⟩ := names_shown .texts postsEntry
    rw [hnone happlied] at hcut
    exact hcut.symm
  · obtain ⟨hpath, hkept, -, -⟩ := names_shown .plainText postsEntry
    have hlost := (hpath typeText_plainText).mpr (.inr pathInFront_plainText)
    exact ⟨hlost, (hkept hlost).2 typeText_plainText⟩
  · obtain ⟨-, -, ⟨cut, hcut, -, hbrackets, htext⟩, hdisplay⟩ := names_shown .entry postsEntry
    obtain ⟨hspelled, hlast⟩ := htext typeText_entry
    have hopen := not_balanced_cut_entry hcut
    have hshown : ¬Balanced TypeRef.entry.shown :=
      fun h => hopen ((hbrackets typeText_entry.balanced).mp h)
    have hmem : TypeRef.entry ∈ postsEntry.types := by simp [postsEntry, Signature.types]
    refine ⟨⟨typeText_entry, hunapplied, (hlast hunapplied).1, hshown, ?_⟩, hbalanced, ?_⟩
    · exact fun h => hopen (hspelled.mp h)
    · exact fun h => hshown ((hdisplay hbalanced).mp h _ hmem)

/-- It is not so that all of a name but a module path is shown, that brackets always match where a
type is shown, or that the parameters of a signature are always shown as types are spelled. -/
theorem names_torn :
    (¬∀ t : TypeRef, TypeText t.full → t.LosesOnlyPath) ∧
    (¬∀ t : TypeRef, TypeText t.full → Balanced t.full → Balanced t.shown) ∧
    ¬∀ s : Signature, (∀ t ∈ s.types, TypeText t.full) →
      ∀ t ∈ s.parameterTypes, TypeText t.shown := by
  have hshown : ¬Balanced TypeRef.entry.shown := by decide
  refine ⟨fun h => ?_, fun h => ?_, fun h => ?_⟩
  · obtain ⟨p, hcut, path, -⟩ := h .entry typeText_entry
    exact not_balanced_cut_entry hcut path.balanced
  · exact hshown (h .entry typeText_entry typeText_entry.balanced)
  · exact hshown (h postsEntry typeText_postsEntry .entry (by simp [postsEntry])).balanced

end BeanRules
