import BeanRules.Kind
import BeanRules.Proofs.Decimal.Rounding
import BeanRules.Proofs.Decimal.Spelling
import BeanRules.Proofs.Naming

/-!
Which values are decimals: the texts that say a number between white space, if the nearest double is
finite. The words for infinities and for what is no number are none of them.
-/
namespace BeanRules

namespace Text

def Padded (s t : List Char) : Prop :=
  ∃ before after, t = before ++ (s ++ after) ∧ (∀ c ∈ before, WhiteSpace c) ∧
    ∀ c ∈ after, WhiteSpace c

variable {s t : List Char}

theorem dropWhile_isBlank_eq_self (h : ∀ c ∈ s, isBlank c = false) : s.dropWhile isBlank = s := by
  cases s with
  | nil => rfl
  | cons c r => rw [List.dropWhile_cons_of_neg (by simp [h c List.mem_cons_self])]

theorem trim_eq_self (h : ∀ c ∈ s, isBlank c = false) : trim s = s := by
  have hreverse : ∀ c ∈ s.reverse, isBlank c = false := fun c hc => h c (List.mem_reverse.mp hc)
  unfold trim
  rw [dropWhile_isBlank_eq_self h, dropWhile_isBlank_eq_self hreverse, List.reverse_reverse]

theorem Padded.trim_eq (h : Padded s t) : trim t = trim s := by
  obtain ⟨before, after, rfl, hbefore, hafter⟩ := h
  simp only [← isBlank_iff] at hbefore hafter
  have hreverse : ∀ c ∈ after.reverse, isBlank c = true :=
    fun c hc => hafter c (List.mem_reverse.mp hc)
  unfold trim
  rw [List.dropWhile_append_of_pos hbefore, List.dropWhile_append]
  split
  next hblank =>
    have hnil : after.dropWhile isBlank = [] :=
      (dropWhile_isBlank_eq_nil_iff after).mpr (List.all_eq_true.mpr hafter)
    rw [hnil, List.isEmpty_iff.mp hblank]
  next => rw [List.reverse_append, List.dropWhile_append_of_pos hreverse]

theorem padded_trim (s : List Char) : Padded (trim s) s := by
  refine ⟨s.takeWhile isBlank, ((s.dropWhile isBlank).reverse.takeWhile isBlank).reverse, ?_, ?_,
    ?_⟩
  · unfold trim
    rw [← List.reverse_append, List.takeWhile_append_dropWhile, List.reverse_reverse,
      List.takeWhile_append_dropWhile]
  · intro c hc
    exact isBlank_iff.mp (List.all_eq_true.mp List.all_takeWhile c hc)
  · intro c hc
    exact isBlank_iff.mp (List.all_eq_true.mp List.all_takeWhile c (List.mem_reverse.mp hc))

end Text

namespace Decimal

open Text (WhiteSpace isBlank isBlank_iff Padded)

/-- What a text says between its white space, and the exponent that is written in it. -/
def Denotes (text : String) (q : ℚ) (e : Int) : Prop :=
  ∃ body, Text.Padded body text.toList ∧ Spells body q e

/-- Letters, digits and the marks between them. -/
def Printed (c : Char) : Prop :=
  c.isAlpha = true ∨ c.isDigit = true ∨ c = '.' ∨ c = '-' ∨ c = '+'

theorem toNat_of_isAlpha {c : Char} (h : c.isAlpha = true) :
    (65 ≤ c.toNat ∧ c.toNat ≤ 90) ∨ (97 ≤ c.toNat ∧ c.toNat ≤ 122) := by
  unfold Char.isAlpha Char.isUpper Char.isLower at h
  simp only [Bool.or_eq_true, Bool.and_eq_true, decide_eq_true_eq, ge_iff_le,
    UInt32.le_iff_toNat_le, Char.toNat_val] at h
  exact h

theorem isDigit_of_isAlpha {c : Char} (h : c.isAlpha = true) : c.isDigit = false := by
  have hrange := toNat_of_isAlpha h
  rw [Bool.eq_false_iff, ne_eq, Char.isDigit_iff_toNat]
  change ¬(48 ≤ c.toNat ∧ c.toNat ≤ 57)
  omega

theorem isBlank_of_printed {c : Char} (h : Printed c) : isBlank c = false := by
  rw [Bool.eq_false_iff, ne_eq, isBlank_iff]
  unfold WhiteSpace
  rcases h with halpha | hdigit | rfl | rfl | rfl
  · have hrange := toNat_of_isAlpha halpha
    omega
  · have hrange : 48 ≤ c.toNat ∧ c.toNat ≤ 57 := Char.isDigit_iff_toNat.mp hdigit
    omega
  all_goals decide

theorem Spells.printed {s : List Char} {q : ℚ} {e : Int} (h : Spells s q e) :
    ∀ c ∈ s, Printed c := by
  have hdigits {ds : List Char} (h : ∀ c ∈ ds, c.isDigit = true) : ∀ c ∈ ds, Printed c := by
    intro c hc
    exact .inr (.inl (h c hc))
  have hsign {sign : List Char} {negative : Bool} (h : IsSign sign negative) :
      ∀ c ∈ sign, Printed c := by
    cases h <;> simp [Printed]
  obtain ⟨signed, counts, scales⟩ := h
  simp only [List.forall_mem_append]
  refine ⟨hsign signed, ?_, ?_⟩
  · cases counts with
    | whole present digits => exact hdigits digits
    | point present digits places =>
      rw [List.forall_mem_append, List.forall_mem_cons]
      exact ⟨hdigits digits, .inr (.inr (.inl rfl)), hdigits places⟩
  · cases scales with
    | absent => exact List.forall_mem_nil _
    | written letter signed present digits =>
      rw [List.forall_mem_cons, List.forall_mem_append]
      refine ⟨?_, hsign signed, hdigits digits⟩
      rcases letter with rfl | rfl <;> exact .inl (by decide)

theorem Numeral.isFinite_iff (n : Numeral) : n.isFinite = true ↔ n.value < 2 ^ 1024 - 2 ^ 970 := by
  have hbound : (overflowBound : ℚ) = 2 ^ 1024 - 2 ^ 970 := by
    have hle : 2 ^ 970 ≤ 2 ^ 1024 := pow_le_pow_right₀ (by decide) (by decide)
    unfold overflowBound
    rw [Binary64.one_shiftLeft_eq, Binary64.one_shiftLeft_eq, Nat.cast_sub hle, Nat.cast_pow,
      Nat.cast_pow, Nat.cast_ofNat]
  have hscale := zpow_mul_powerOfTen (n.exponent - n.places)
  unfold isFinite value
  dsimp only
  rw [decide_eq_true_iff, ← @Nat.cast_lt ℚ, Nat.cast_mul, Nat.cast_mul, ← hscale, ← mul_assoc,
    mul_lt_mul_iff_left₀ (cast_powerOfTen_pos _), hbound]

section Texts

variable {s : String} {q : ℚ} {e : Int}

theorem Denotes.trim (h : Denotes s q e) : Spells (Text.trim s.toList) q e := by
  obtain ⟨body, padded, spells⟩ := h
  rwa [padded.trim_eq, Text.trim_eq_self fun c hc => isBlank_of_printed (spells.printed c hc)]

theorem Denotes.unique {r : ℚ} {f : Int} (h : Denotes s q e) (h' : Denotes s r f) (he : |e| < 65536)
    (hf : |f| < 65536) : q = r ∧ e = f :=
  h.trim.unique h'.trim he hf

theorem exists_denotes (h : isDecimalText s = true) : ∃ q e, Denotes s q e := by
  unfold isDecimalText at h
  split at h
  next n hread =>
    obtain ⟨q, e, spells⟩ := exists_spells hread
    exact ⟨q, e, _, Text.padded_trim s.toList, spells⟩
  next => cases h

theorem abs_signed (n : Numeral) : |n.signed| = n.value := by
  have hvalue : 0 ≤ n.value := mul_nonneg (Nat.cast_nonneg _) (zpow_nonneg (by decide) _)
  unfold Numeral.signed
  split
  · rw [abs_neg, abs_of_nonneg hvalue]
  · rw [abs_of_nonneg hvalue]

theorem Denotes.isDecimalText_iff (h : Denotes s q e) (small : |e| < 65536) :
    isDecimalText s = true ↔ |q| < 2 ^ 1024 - 2 ^ 970 := by
  obtain ⟨n, hread, hn⟩ := h.trim.read
  obtain ⟨-, rfl⟩ := hn small
  unfold isDecimalText
  rw [hread, abs_signed]
  exact n.isFinite_iff

theorem isDecimalText_congr {t : String} (h : Padded s.toList t.toList) :
    isDecimalText t = isDecimalText s := by
  unfold isDecimalText
  rw [h.trim_eq]

theorem Denotes.exponent_eq_zero (h : Denotes s q e)
    (hs : ∀ c ∈ s.toList, c ≠ 'e' ∧ c ≠ 'E') : e = 0 := by
  obtain ⟨body, ⟨before, after, hsplit, -, -⟩, spells⟩ := h
  cases spells with
  | @parts sign mantissa exponent negative q e signed counts scales =>
    cases scales with
    | absent => rfl
    | @written c sign ds negative letter =>
      have hc := hs c (by simp [hsplit])
      rcases letter with rfl | rfl
      · exact absurd rfl hc.1
      · exact absurd rfl hc.2

end Texts

section Words

def noNumbers : List (List Char) := ["inf".toList, "infinity".toList, "nan".toList]

/-- One of the words, with any sign, in capitals or not, between white space. -/
def NamesNoNumber (text : String) : Prop :=
  ∃ sign negative word, Padded (sign ++ word) text.toList ∧ IsSign sign negative ∧
    word.map Char.toLower ∈ noNumbers

theorem isAlpha_of_toLower {c : Char} (h : c.toLower.isLower = true) : c.isAlpha = true := by
  unfold Char.toLower at h
  unfold Char.isAlpha
  split at h
  next hupper =>
    have hcapital : c.isUpper = true := decide_eq_true hupper
    rw [hcapital, Bool.true_or]
  next => rw [h, Bool.or_true]

theorem isAlpha_of_noNumbers {word : List Char} (h : word.map Char.toLower ∈ noNumbers) :
    ∀ c ∈ word, c.isAlpha = true := by
  have hletters : noNumbers.all (·.all Char.isLower) = true := by decide
  intro c hc
  have hword := List.all_eq_true.mp hletters _ h
  exact isAlpha_of_toLower (List.all_eq_true.mp hword _ (List.mem_map_of_mem hc))

theorem Numeral.ofChars?_letter {sign r : List Char} {negative : Bool} {c : Char}
    (signed : IsSign sign negative) (h : c.isAlpha = true) : ofChars? (sign ++ c :: r) = none := by
  have hne (d : Char) (hd : d.isAlpha = false) : c ≠ d := by
    rintro rfl
    rw [h] at hd
    cases hd
  have hdigit := isDigit_of_isAlpha h
  have hunsigned : ∀ d ∈ (c :: r).head?, d ≠ '-' ∧ d ≠ '+' := by
    simpa using ⟨hne '-' rfl, hne '+' rfl⟩
  unfold ofChars?
  simp only [takeSign_append signed hunsigned, List.takeWhile_cons, List.dropWhile_cons, hdigit,
    Bool.false_eq_true, if_false]
  split
  case h_1 heq =>
    cases heq
    exact absurd rfl (hne '.' rfl)
  case h_2 => rfl

theorem NamesNoNumber.isDecimalText {s : String} (h : NamesNoNumber s) : isDecimalText s = false := by
  obtain ⟨sign, negative, word, padded, signed, hword⟩ := h
  have hletters := isAlpha_of_noNumbers hword
  have hprinted : ∀ c ∈ sign ++ word, isBlank c = false := by
    intro c hc
    apply isBlank_of_printed
    rcases List.mem_append.mp hc with hsign | hc
    · cases signed <;> simp [Printed] at hsign ⊢ <;> simp [hsign]
    · exact .inl (hletters c hc)
  unfold Decimal.isDecimalText
  rw [padded.trim_eq, Text.trim_eq_self hprinted]
  cases word with
  | nil => simp [noNumbers] at hword
  | cons c r => rw [Numeral.ofChars?_letter signed (hletters c List.mem_cons_self)]

end Words

end Decimal

namespace AttrType

open Decimal (Denotes NamesNoNumber Binary64)

/-- The values that are taken for decimals are the texts in which a number stands between white space
and is written as the grammar denotes, if it lies below half a last place above the greatest double and
its nearest double is therefore finite. That number may be as small as it likes. A word for an
infinity is not taken, and white space does not matter. -/
theorem decimals_recognised :
    (∀ s, (∀ q e, Denotes s q e → |e| < 65536) → (decimal.accepts (.string s) = true ↔
      ∃ q e, Denotes s q e ∧ |q| < 2 ^ 1024 - 2 ^ 970)) ∧
      (∀ s q e r f, Denotes s q e → Denotes s r f → |e| < 65536 → |f| < 65536 → q = r ∧ e = f) ∧
      (∀ s, decimal.accepts (.string s) = true → ∃ q e, Denotes s q e) ∧
      (∀ q, (Binary64.nearest q).isFinite = true ↔ |q| < 2 ^ 1024 - 2 ^ 970) ∧
      (∀ s q e, Denotes s q e → |e| < 65536 → |q| ≤ (2 ^ 1075)⁻¹ →
        (Binary64.nearest q).isZero = true ∧ decimal.accepts (.string s) = true) ∧
      (∀ s, NamesNoNumber s → decimal.accepts (.string s) = false) ∧
      (∀ s t : String, Text.Padded s.toList t.toList →
        decimal.accepts (.string t) = decimal.accepts (.string s)) ∧
      ∀ v, v.string? = none → decimal.accepts v = false := by
  have haccepts (s : String) : decimal.accepts (.string s) = Decimal.isDecimalText s := rfl
  simp only [haccepts]
  refine ⟨?_, fun s q e r f => Denotes.unique, fun s => Decimal.exists_denotes,
    Binary64.isFinite_nearest_iff, ?_, fun s => NamesNoNumber.isDecimalText,
    fun s t => Decimal.isDecimalText_congr, ?_⟩
  · intro s small
    constructor
    · intro h
      obtain ⟨q, e, denotes⟩ := Decimal.exists_denotes h
      exact ⟨q, e, denotes, (denotes.isDecimalText_iff (small q e denotes)).mp h⟩
    · rintro ⟨q, e, denotes, hq⟩
      exact (denotes.isDecimalText_iff (small q e denotes)).mpr hq
  · intro s q e denotes small tiny
    have hzero := (Binary64.isZero_nearest_iff q).mpr tiny
    refine ⟨hzero, (denotes.isDecimalText_iff small).mpr ?_⟩
    rw [← Binary64.isFinite_nearest_iff]
    exact Binary64.isFinite_of_isZero hzero
  · intro v hv
    have hvalue : decimal.accepts v = v.string?.any Decimal.isDecimalText := rfl
    rw [hvalue, hv]
    rfl

theorem decimals_recognised_prices :
    (∃ q e, Denotes "\u00a0-.50\n" q e ∧ |q| < 2 ^ 1024 - 2 ^ 970) ∧
      (∃ q e, Denotes "1e-400" q e ∧ (Binary64.nearest q).isZero = true) ∧
      decimal.accepts (.string " -Infinity") = false ∧
      decimal.accepts (.string " +7. ") = decimal.accepts (.string "+7.") ∧
      decimal.accepts (.int 7) = false := by
  obtain ⟨hiff, -, -, -, htiny, hwords, hpadded, hothers⟩ := decimals_recognised
  have hspace : ∀ c ∈ [' '], Text.WhiteSpace c := by simp [Text.WhiteSpace]
  refine ⟨?_, ?_, hwords _ ?_, hpadded _ _ ?_, hothers _ rfl⟩
  · apply (hiff _ _).mp
    · decide +kernel
    · intro q e h
      rw [h.exponent_eq_zero (by simp)]
      decide
  · have spells := Decimal.Spells.parts .absent
      (.whole (by decide : ['1'] ≠ []) (List.all_eq_true.mp rfl))
      (.written (.inl rfl : 'e' = 'e' ∨ _) .minus (by decide : ['4', '0', '0'] ≠ [])
        (List.all_eq_true.mp rfl))
    have denotes : Denotes "1e-400" _ _ :=
      ⟨_, ⟨[], [], rfl, List.forall_mem_nil _, List.forall_mem_nil _⟩, spells⟩
    refine ⟨_, _, denotes, (htiny _ _ _ denotes (by decide) ?_).1⟩
    have hdigits : Decimal.number ['1'] = 1 ∧ Decimal.number ['4', '0', '0'] = 400 := ⟨rfl, rfl⟩
    have hpow : (2 : ℚ) ^ 1075 ≤ 10 ^ 400 :=
      calc
        (2 : ℚ) ^ 1075 ≤ 2 ^ (3 * 400) := pow_le_pow_right₀ (by decide) (by decide)
        _ = (2 ^ 3) ^ 400 := pow_mul 2 3 400
        _ ≤ 10 ^ 400 := pow_le_pow_left₀ (by decide) (by decide) 400
    have hinv := inv_anti₀ (pow_pos (by decide) 1075) hpow
    simpa [hdigits, zpow_neg] using hinv
  · exact ⟨['-'], true, "Infinity".toList, ⟨[' '], [], rfl, hspace, List.forall_mem_nil _⟩, .minus,
      by decide⟩
  · exact ⟨[' '], [' '], rfl, hspace, hspace⟩

end AttrType

end BeanRules
