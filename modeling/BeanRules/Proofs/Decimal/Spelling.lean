import BeanRules.Proofs.Decimal.Reading
import Mathlib.Tactic.FieldSimp

/-!
How decimal numbers are written, as a grammar, and what number each text of it says. The reader
finds a numeral in the texts of the grammar and in no others, and its value is the number said as
long as the written exponent is short of the bound on exponents.
-/
namespace BeanRules.Decimal

def number (ds : List Char) : Nat := Nat.ofDigitChars 10 ds 0

/-- Digits, and possibly a point before, among or behind them. -/
inductive Mantissa : List Char → ℚ → Prop where
  | whole {ds : List Char} (present : ds ≠ []) (digits : ∀ c ∈ ds, c.isDigit = true) :
      Mantissa ds (number ds)
  | point {ds fs : List Char} (present : ds ≠ [] ∨ fs ≠ [])
      (digits : ∀ c ∈ ds, c.isDigit = true) (places : ∀ c ∈ fs, c.isDigit = true) :
      Mantissa (ds ++ '.' :: fs) (number ds + number fs / 10 ^ fs.length)

/-- Nothing, which stands for zero, or a letter, a sign and digits. -/
inductive ExponentPart : List Char → Int → Prop where
  | absent : ExponentPart [] 0
  | written {c : Char} {sign ds : List Char} {negative : Bool} (letter : c = 'e' ∨ c = 'E')
      (signed : IsSign sign negative) (present : ds ≠ []) (digits : ∀ c ∈ ds, c.isDigit = true) :
      ExponentPart (c :: (sign ++ ds)) (if negative then -(number ds : Int) else number ds)

/-- What a text says, and the exponent that is written in it. -/
inductive Spells : List Char → ℚ → Int → Prop where
  | parts {sign mantissa exponent : List Char} {negative : Bool} {q : ℚ} {e : Int}
      (signed : IsSign sign negative) (counts : Mantissa mantissa q)
      (scales : ExponentPart exponent e) :
      Spells (sign ++ (mantissa ++ exponent)) ((if negative then -q else q) * 10 ^ e) e

theorem number_append (ds fs : List Char) :
    number (ds ++ fs) = 10 ^ fs.length * number ds + number fs := by
  unfold number
  rw [Nat.ofDigitChars_append, Nat.ofDigitChars_eq_ofDigitChars_zero]

section Parts

variable {s : List Char} {e : Int} {q : ℚ}

theorem exists_isSign (s : List Char) :
    ∃ sign, IsSign sign (takeSign s).1 ∧ s = sign ++ (takeSign s).2 := by
  unfold takeSign
  split
  · exact ⟨_, .minus, rfl⟩
  · exact ⟨_, .plus, rfl⟩
  · exact ⟨_, .absent, rfl⟩

theorem Mantissa.read (h : Mantissa s q) : ∃ digits places : Nat,
    (q = digits * 10 ^ (-places : Int)) ∧
      ∀ {sign tail : List Char} {negative : Bool}, IsSign sign negative →
        (∀ c ∈ tail.head?, c.isDigit = false ∧ c ≠ '.') →
          Numeral.ofChars? (sign ++ (s ++ tail)) =
            (exponentPart? tail).map fun e => ⟨negative, digits, places, e⟩ := by
  cases h with
  | whole present digits =>
    refine ⟨natOfDigits s, 0, ?_, ?_⟩
    · rw [natOfDigits_eq, number]
      simp
    · intro sign tail negative signed htail
      exact Numeral.ofChars?_whole signed tail present digits htail
  | @point ds fs present digits places =>
    refine ⟨natOfDigits (ds ++ fs), fs.length, ?_, ?_⟩
    · have hvalue := number_append ds fs
      rw [natOfDigits_eq, ← number, hvalue, zpow_neg, zpow_natCast]
      push_cast
      field_simp
    · intro sign tail negative signed htail
      rw [List.append_assoc, List.cons_append]
      exact Numeral.ofChars?_point signed fs tail present digits places
        fun c hc => (htail c hc).1

theorem ExponentPart.head (h : ExponentPart s e) : ∀ c ∈ s.head?, c.isDigit = false ∧ c ≠ '.' := by
  cases h with
  | absent => simp
  | written letter => rcases letter with rfl | rfl <;> simp

theorem ExponentPart.read (h : ExponentPart s e) :
    ∃ e', exponentPart? s = some e' ∧ (|e| < 65536 → e' = e) := by
  cases h with
  | absent => exact ⟨0, rfl, fun _ => rfl⟩
  | @written c sign ds negative letter signed present digits =>
    have hunsigned := not_sign_of_isDigit (r := []) present digits
    rw [List.append_nil] at hunsigned
    have hall : ds.all Char.isDigit = true := List.all_eq_true.mpr digits
    refine ⟨if negative then -(exponentOfDigits ds : Int) else exponentOfDigits ds, ?_, ?_⟩
    · simp only [exponentPart?, takeSign_append signed hunsigned]
      rw [if_pos ⟨letter, present, hall⟩]
    · intro hsmall
      have hnumber : natOfDigits ds < 65536 := by
        rw [natOfDigits_eq]
        unfold number at hsmall
        cases negative <;> simp at hsmall <;> omega
      rw [exponentOfDigits_eq ds hnumber, natOfDigits_eq]
      rfl

theorem exists_exponentPart {e' : Int} (h : exponentPart? s = some e') : ∃ e, ExponentPart s e := by
  cases s with
  | nil => exact ⟨0, .absent⟩
  | cons c r =>
    obtain ⟨sign, signed, hsplit⟩ := exists_isSign r
    simp only [exponentPart?] at h
    split at h
    next hwritten =>
      obtain ⟨letter, present, digits⟩ := hwritten
      rw [hsplit]
      exact ⟨_, .written letter signed present (List.all_eq_true.mp digits)⟩
    next => cases h

end Parts

section Numerals

variable {s : List Char} {q r : ℚ} {e f : Int}

def Numeral.signed (n : Numeral) : ℚ := if n.negative then -n.value else n.value

theorem Spells.read (h : Spells s q e) :
    ∃ n, Numeral.ofChars? s = some n ∧ (|e| < 65536 → n.exponent = e ∧ n.signed = q) := by
  obtain ⟨signed, counts, scales⟩ := h
  obtain ⟨e', hexponent, hsmall⟩ := scales.read
  obtain ⟨digits, places, hq, hread⟩ := counts.read
  rw [hread signed scales.head, hexponent]
  refine ⟨_, rfl, fun h => ⟨hsmall h, ?_⟩⟩
  have hvalue : (digits : ℚ) * 10 ^ (e - places) = digits * 10 ^ (-places : Int) * 10 ^ e := by
    rw [mul_assoc, ← zpow_add₀ (by decide), neg_add_eq_sub]
  unfold Numeral.signed Numeral.value
  rw [hsmall h, hq, hvalue]
  split <;> ring

/-- A text says one number at most. -/
theorem Spells.unique (h : Spells s q e) (h' : Spells s r f) (he : |e| < 65536)
    (hf : |f| < 65536) : q = r ∧ e = f := by
  obtain ⟨n, hn, hread⟩ := h.read
  obtain ⟨m, hm, hread'⟩ := h'.read
  cases hn.symm.trans hm
  obtain ⟨rfl, rfl⟩ := hread he
  obtain ⟨rfl, rfl⟩ := hread' hf
  exact ⟨rfl, rfl⟩

theorem isDigit_of_mem_takeWhile {l : List Char} :
    ∀ c ∈ l.takeWhile Char.isDigit, c.isDigit = true :=
  List.all_eq_true.mp List.all_takeWhile

/-- The digits, the point and the rest of what is read are the parts of the grammar. -/
theorem exists_spells {n : Numeral} (h : Numeral.ofChars? s = some n) : ∃ q e, Spells s q e := by
  obtain ⟨sign, signed, hsplit⟩ := exists_isSign s
  have hwhole := List.takeWhile_append_dropWhile (p := Char.isDigit) (l := (takeSign s).2)
  unfold Numeral.ofChars? at h
  dsimp only at h
  rw [hsplit, ← hwhole]
  split at h
  case h_1 r hpoint =>
    split at h
    next => cases h
    next habsent =>
      obtain ⟨e', hexponent, -⟩ := Option.map_eq_some_iff.mp h
      obtain ⟨e, scales⟩ := exists_exponentPart hexponent
      have counts := Mantissa.point (not_and_or.mp habsent) isDigit_of_mem_takeWhile
        isDigit_of_mem_takeWhile
      have spells := Spells.parts signed counts scales
      rw [List.append_assoc, List.cons_append, List.takeWhile_append_dropWhile] at spells
      rw [hpoint]
      exact ⟨_, _, spells⟩
  case h_2 =>
    split at h
    next => cases h
    next habsent =>
      obtain ⟨e', hexponent, -⟩ := Option.map_eq_some_iff.mp h
      obtain ⟨e, scales⟩ := exists_exponentPart hexponent
      have counts := Mantissa.whole (fun hnil => habsent ⟨hnil, rfl⟩) isDigit_of_mem_takeWhile
      exact ⟨_, _, .parts signed counts scales⟩

end Numerals

end BeanRules.Decimal
