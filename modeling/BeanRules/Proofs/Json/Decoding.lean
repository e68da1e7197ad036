import BeanRules.Proofs.Json.Grammar
import BeanRules.Proofs.Json.Skipping
import BeanRules.Proofs.Json.Strings

/-!
A well-formed string is read as the text that its parts stand for. If they stand for none, because
half of a surrogate pair is missing, it is not read at all.
-/
namespace BeanRules.Json

open Text (Rest Tail)

/-- Reading from behind an opening quote gives a text and leaves this rest, or fails if there is no
text to give. -/
inductive Decodes (s : List Char) : Option (List Char) → List Char → Prop where
  | reads {text r : List Char} (h : ReadsString s text r) : Decodes s (some text) r
  | fails {stop : Stop} {r : List Char} (h : stringBody s = .error stop) : Decodes s none r

section Steps

variable {s r : List Char} {o : Option (List Char)} {a b c d : Char} {n : Nat}

theorem Decodes.plain {c : Char} (h : Decodes s o r) (printable : 0x20 ≤ c.toNat)
    (quote : c ≠ '"') (slash : c ≠ '\\') : Decodes (c :: s) (o.map (c :: ·)) r := by
  cases h with
  | reads h => exact .reads (h.plain quote slash (Nat.not_lt.mpr printable))
  | @fails stop _ h =>
    have hfails : stringBody (c :: s) = .error stop := by
      rw [stringBody]
      · rw [if_neg (Nat.not_lt.mpr printable), h]
        rfl
      · simpa using quote
      · simpa using slash
    exact .fails hfails

theorem Decodes.short {e c : Char} (h : Decodes s o r) (stands : shortEscape? e = some c) :
    Decodes ('\\' :: e :: s) (o.map (c :: ·)) r := by
  cases h with
  | reads h => exact .reads (h.short stands)
  | @fails stop _ h =>
    have hfails : stringBody ('\\' :: e :: s) = .error stop := by
      rw [stringBody]
      · simp only [stands, h]
        rfl
      · rintro rfl
        cases stands
    exact .fails hfails

theorem Decodes.escape {t : List Char} {u : Rest t} (h : Decodes u.text o r)
    (code : unicodeEscape t = .ok (c, u)) : Decodes ('\\' :: 'u' :: t) (o.map (c :: ·)) r := by
  cases h with
  | reads h =>
    obtain ⟨rest, hread, rfl⟩ := h
    refine .reads ⟨.cons '\\' (.cons 'u' (u.andThen rest)), ?_, rfl⟩
    rw [stringBody, code]
    change Except.bind (stringBody u.text) _ = _
    rw [hread]
    rfl
  | @fails stop _ h =>
    have hfails : stringBody ('\\' :: 'u' :: t) = .error stop := by
      rw [stringBody, code]
      change Except.bind (stringBody u.text) _ = _
      rw [h]
      rfl
    exact .fails hfails

theorem decodes_none {t : List Char} {stop : Stop} (code : unicodeEscape t = .error stop) :
    Decodes ('\\' :: 'u' :: t) none r := by
  have hfails : stringBody ('\\' :: 'u' :: t) = .error stop := by
    rw [stringBody, code]
    rfl
  exact .fails hfails

theorem unicodeEscape_low (digits : fourDigits? a b c d = some n) (low : isLowSurrogate n = true)
    (s : List Char) : ∃ stop, unicodeEscape (a :: b :: c :: d :: s) = .error stop := by
  unfold unicodeEscape
  rw [codeUnit_of_digits digits]
  change ∃ stop, (if isLowSurrogate n = true then _ else _) = _
  rw [if_pos low]
  exact ⟨_, rfl⟩

theorem unicodeEscape_single (digits : fourDigits? a b c d = some n)
    (low : isLowSurrogate n = false) (high : isHighSurrogate n = false) (s : List Char) :
    ∃ u, unicodeEscape (a :: b :: c :: d :: s) = .ok (Char.ofNat n, u) ∧ u.text = s := by
  unfold unicodeEscape
  rw [codeUnit_of_digits digits]
  change ∃ u, (if isLowSurrogate n = true then _ else if (!isHighSurrogate n) = true then _ else _) =
    _ ∧ _
  rw [low, high]
  exact ⟨_, rfl, rfl⟩

theorem unicodeEscape_pair (digits : fourDigits? a b c d = some n)
    (low : isLowSurrogate n = false) (high : isHighSurrogate n = true) {e f g h : Char} {m : Nat}
    (digits' : fourDigits? e f g h = some m) (low' : isLowSurrogate m = true) (s : List Char) :
    ∃ u, unicodeEscape (a :: b :: c :: d :: '\\' :: 'u' :: e :: f :: g :: h :: s) =
      .ok (Char.ofNat (0x10000 + (n - 0xD800) * 0x400 + (m - 0xDC00)), u) ∧ u.text = s := by
  unfold unicodeEscape
  rw [codeUnit_of_digits digits]
  change ∃ u, (if isLowSurrogate n = true then _ else if (!isHighSurrogate n) = true then _ else _) =
    _ ∧ _
  rw [low, high]
  change ∃ u, Except.bind (codeUnit (e :: f :: g :: h :: s)) _ = _ ∧ _
  rw [codeUnit_of_digits digits']
  change ∃ u, (if isLowSurrogate m = true then _ else _) = _ ∧ _
  rw [if_pos low']
  exact ⟨_, rfl, rfl⟩

theorem unicodeEscape_unpaired (digits : fourDigits? a b c d = some n)
    (low : isLowSurrogate n = false) (high : isHighSurrogate n = true) {e f g h : Char} {m : Nat}
    (digits' : fourDigits? e f g h = some m) (low' : isLowSurrogate m = false) (s : List Char) :
    ∃ stop, unicodeEscape (a :: b :: c :: d :: '\\' :: 'u' :: e :: f :: g :: h :: s) =
      .error stop := by
  unfold unicodeEscape
  rw [codeUnit_of_digits digits]
  change ∃ stop, (if isLowSurrogate n = true then _ else if (!isHighSurrogate n) = true then _
    else _) = _
  rw [low, high]
  change ∃ stop, Except.bind (codeUnit (e :: f :: g :: h :: s)) _ = _
  rw [codeUnit_of_digits digits']
  change ∃ stop, (if isLowSurrogate m = true then _ else _) = _
  rw [low']
  exact ⟨_, rfl⟩

theorem unicodeEscape_alone (digits : fourDigits? a b c d = some n)
    (low : isLowSurrogate n = false) (high : isHighSurrogate n = true) {q : List Char}
    (next : ∀ t, q ≠ '\\' :: 'u' :: t) :
    ∃ stop, unicodeEscape (a :: b :: c :: d :: q) = .error stop := by
  cases hcode : unicodeEscape (a :: b :: c :: d :: q) with
  | error stop => exact ⟨stop, rfl⟩
  | ok x =>
    unfold unicodeEscape at hcode
    rw [codeUnit_of_digits digits] at hcode
    change (if isLowSurrogate n = true then _ else if (!isHighSurrogate n) = true then _ else _) =
      _ at hcode
    rw [low, high] at hcode
    rw [if_neg Bool.false_ne_true, if_neg (show ¬(!true) = true by decide)] at hcode
    split at hcode
    case h_3 htext => exact absurd htext (next _)
    all_goals cases hcode

theorem text_ne_code {parts : List StringPart}
    (next : ∀ a b c d n digits rest, parts ≠ .unit a b c d n digits :: rest) (r t : List Char) :
    parts.flatMap StringPart.text ++ '"' :: r ≠ '\\' :: 'u' :: t := by
  intro h
  cases parts with
  | nil => cases h
  | cons part parts =>
    cases part with
    | plain c printable quote slash => exact slash (List.head_eq_of_cons_eq h)
    | short letter c stands =>
      cases h
      cases stands
    | unit => exact next _ _ _ _ _ _ _ rfl

end Steps

/-- The induction is on the parts, a pair of surrogates in one step. -/
theorem decodes_closed (parts : List StringPart) (r : List Char) :
    Decodes (closed parts ++ r) (StringPart.decode? parts) r := by
  unfold closed
  rw [List.append_assoc, List.singleton_append]
  induction parts using StringPart.decode?.induct with
  | case1 => exact .reads (readsString_quote r)
  | case2 c printable quote slash rest ih => exact ih.plain printable quote slash
  | case3 letter c stands rest ih => exact ih.short stands
  | case4 a b c d n digits rest low =>
    obtain ⟨stop, hstop⟩ := unicodeEscape_low digits low (rest.flatMap StringPart.text ++ '"' :: r)
    rw [StringPart.decode?_low digits low]
    exact decodes_none hstop
  | case5 a b c d n digits low high e f g h m digits' rest low' ih =>
    obtain ⟨u, hu, hrest⟩ := unicodeEscape_pair digits (Bool.eq_false_of_not_eq_true low) high
      digits' low' (rest.flatMap StringPart.text ++ '"' :: r)
    rw [StringPart.decode?, if_neg low, if_pos high, if_pos low']
    rw [← hrest] at ih
    exact ih.escape hu
  | case6 a b c d n digits low high e f g h m digits' rest low' =>
    obtain ⟨stop, hstop⟩ := unicodeEscape_unpaired digits (Bool.eq_false_of_not_eq_true low) high
      digits' (Bool.eq_false_of_not_eq_true low') (rest.flatMap StringPart.text ++ '"' :: r)
    rw [StringPart.decode?, if_neg low, if_pos high, if_neg low']
    exact decodes_none hstop
  | case7 a b c d n digits rest low high next =>
    obtain ⟨stop, hstop⟩ := unicodeEscape_alone digits (Bool.eq_false_of_not_eq_true low) high
      (text_ne_code next r)
    rw [StringPart.decode?, if_neg low, if_pos high]
    · exact decodes_none hstop
    · exact next
  | case8 a b c d n digits rest low high ih =>
    have hlow := Bool.eq_false_of_not_eq_true low
    have hhigh := Bool.eq_false_of_not_eq_true high
    obtain ⟨u, hu, hrest⟩ :=
      unicodeEscape_single digits hlow hhigh (rest.flatMap StringPart.text ++ '"' :: r)
    rw [StringPart.decode?_single digits hlow hhigh]
    rw [← hrest] at ih
    exact ih.escape hu

theorem Decodes.unique {s r : List Char} {o o' : Option (List Char)} (h : Decodes s o r)
    (h' : Decodes s o' r) : o = o' := by
  cases h with
  | reads h =>
    cases h' with
    | reads h' => rw [(h.unique h').1]
    | fails h' =>
      obtain ⟨rest, h, -⟩ := h
      cases h.symm.trans h'
  | fails h =>
    cases h' with
    | reads h' =>
      obtain ⟨rest, h', -⟩ := h'
      cases h.symm.trans h'
    | fails h' => rfl

theorem decode?_eq_of_closed_eq {parts parts' : List StringPart} (h : closed parts = closed parts') :
    StringPart.decode? parts = StringPart.decode? parts' := by
  have hparts := decodes_closed parts []
  rw [h] at hparts
  exact hparts.unique (decodes_closed parts' [])

end BeanRules.Json
