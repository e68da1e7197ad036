import BeanRules.Json.Basic
import BeanRules.Json.Scan

/-!
A written string is read back: every escape stands for the character it was written for, and the
closing quote is the first one that nothing escapes.
-/
namespace BeanRules.Json

open Text (Rest Tail)

/-- Reading from behind an opening quote gives this text and leaves this rest. -/
def ReadsString (s text r : List Char) : Prop :=
  ∃ rest, stringBody s = .ok (text, rest) ∧ rest.text = r

theorem ReadsString.unique {s t u r q : List Char} (h : ReadsString s t r)
    (h' : ReadsString s u q) : t = u ∧ r = q := by
  obtain ⟨rest, hread, rfl⟩ := h
  obtain ⟨rest', hread', rfl⟩ := h'
  cases hread.symm.trans hread'
  exact ⟨rfl, rfl⟩

theorem readsString_quote (r : List Char) : ReadsString ('"' :: r) [] r := by
  refine ⟨.cons '"' (.whole r), ?_, rfl⟩
  rw [stringBody]

section

variable {s text r : List Char} {c : Char}

theorem ReadsString.plain (h : ReadsString s text r) (hquote : c ≠ '"') (hslash : c ≠ '\\')
    (hcontrol : ¬c.toNat < 0x20) : ReadsString (c :: s) (c :: text) r := by
  obtain ⟨rest, hread, rfl⟩ := h
  refine ⟨.cons c rest, ?_, rfl⟩
  rw [stringBody]
  · rw [if_neg hcontrol, hread]
    rfl
  · simpa using hquote
  · simpa using hslash

theorem ReadsString.short {e : Char} (h : ReadsString s text r) (he : shortEscape? e = some c) :
    ReadsString ('\\' :: e :: s) (c :: text) r := by
  obtain ⟨rest, hread, rfl⟩ := h
  refine ⟨.cons '\\' (.cons e rest), ?_, rfl⟩
  rw [stringBody]
  · simp only [he, hread]
    rfl
  · rintro rfl
    cases he

theorem hexValue?_digitChar : ∀ d, d < 16 → hexValue? (Nat.digitChar d) = some d := by decide

theorem fourDigits?_digitChar {n : Nat} (h : n < 0x20) :
    fourDigits? '0' '0' (Nat.digitChar (n / 16)) (Nat.digitChar (n % 16)) = some n := by
  have hhigh := hexValue?_digitChar (n / 16) (by omega)
  have hlow := hexValue?_digitChar (n % 16) (by omega)
  have hzero : hexValue? '0' = some 0 := by decide
  have hsum : 16 * (16 * (16 * 0 + 0) + n / 16) + n % 16 = n := by omega
  simp only [fourDigits?, hzero, hhigh, hlow, Option.bind_eq_bind, Option.bind_some, hsum]
  rfl

theorem ReadsString.control (h : ReadsString s text r) (hcontrol : c.toNat < 0x20) :
    ReadsString ('\\' :: 'u' :: '0' :: '0' :: Nat.digitChar (c.toNat / 16) ::
      Nat.digitChar (c.toNat % 16) :: s) (c :: text) r := by
  obtain ⟨rest, hread, rfl⟩ := h
  let unit : Rest ('0' :: '0' :: Nat.digitChar (c.toNat / 16) ::
      Nat.digitChar (c.toNat % 16) :: s) :=
    .cons '0' (.cons '0' (.cons _ (.cons _ (.whole s))))
  have hcode : codeUnit ('0' :: '0' :: Nat.digitChar (c.toNat / 16) ::
      Nat.digitChar (c.toNat % 16) :: s) = .ok (c.toNat, unit) := by
    unfold codeUnit
    dsimp only
    rw [fourDigits?_digitChar hcontrol]
  have hunit : unicodeEscape ('0' :: '0' :: Nat.digitChar (c.toNat / 16) ::
      Nat.digitChar (c.toNat % 16) :: s) = .ok (c, unit) := by
    have hlow : isLowSurrogate c.toNat = false := by
      simp [isLowSurrogate]
      omega
    have hhigh : isHighSurrogate c.toNat = false := by
      simp [isHighSurrogate]
      omega
    unfold unicodeEscape
    rw [hcode]
    change (if isLowSurrogate c.toNat = true then _ else _) = _
    rw [hlow, hhigh, Char.ofNat_toNat]
    rfl
  refine ⟨.cons '\\' (.cons 'u' (unit.andThen (Rest.tail rest))), ?_, rfl⟩
  rw [stringBody, hunit]
  change Except.bind (stringBody s) _ = _
  rw [hread]
  rfl

theorem ReadsString.escape (h : ReadsString s text r) (c : Char) :
    ReadsString (escape c ++ s) (c :: text) r := by
  unfold Json.escape
  split
  case h_8 hquote hslash _ _ _ _ _ =>
    split
    · exact h.control (by assumption)
    · exact h.plain hquote hslash (by assumption)
  all_goals exact h.short rfl

end

theorem readsString_flatMap_escape (text r : List Char) :
    ReadsString (text.flatMap escape ++ '"' :: r) text r := by
  induction text with
  | nil => exact readsString_quote r
  | cons c text ih =>
    rw [List.flatMap_cons, List.append_assoc]
    exact ih.escape c

/-- A written string shows where it ends, and which string it is. -/
theorem writeString_inj {s t : String} {r q : List Char}
    (h : writeString s ++ r = writeString t ++ q) : s = t ∧ r = q := by
  have hbody : s.toList.flatMap escape ++ '"' :: r = t.toList.flatMap escape ++ '"' :: q := by
    simpa [writeString] using h
  have hread := readsString_flatMap_escape s.toList r
  rw [hbody] at hread
  obtain ⟨htext, hrest⟩ := hread.unique (readsString_flatMap_escape t.toList q)
  exact ⟨String.toList_inj.mp htext, hrest⟩

end BeanRules.Json
