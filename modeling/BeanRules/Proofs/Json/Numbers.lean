import BeanRules.Json.Basic
import BeanRules.Proofs.Decimal.Reading

/-!
The numbers of a document. Integers and doubles are written with characters that stand nowhere else
outside of strings, and a double always shows a point or an exponent, which no integer does.
-/
namespace BeanRules.Json

open Decimal (Binary64 Digits Numeral exponentDigits exponentSuffix positionalDigits signText)

def isNumeric (c : Char) : Bool := c.isDigit || c == '-' || c == '+' || c == '.' || c == 'e'

/-- What shows that a number is not an integer. -/
def isMark (c : Char) : Bool := c == '.' || c == 'e'

theorem isNumeric_of_isDigit {c : Char} (h : c.isDigit = true) : isNumeric c = true := by
  simp [isNumeric, h]

theorem isMark_of_isDigit {c : Char} (h : c.isDigit = true) : isMark c = false := by
  rw [isMark, Bool.or_eq_false_iff, beq_eq_false_iff_ne, beq_eq_false_iff_ne]
  constructor <;> rintro rfl <;> cases h

def Numeric (s : List Char) : Prop := ∀ c ∈ s, isNumeric c = true

instance (s : List Char) : Decidable (Numeric s) :=
  decidable_of_iff (s.all isNumeric = true) List.all_eq_true

theorem numeric_append {s t : List Char} : Numeric (s ++ t) ↔ Numeric s ∧ Numeric t :=
  List.forall_mem_append

theorem numeric_cons {c : Char} {s : List Char} :
    Numeric (c :: s) ↔ isNumeric c = true ∧ Numeric s := List.forall_mem_cons

theorem numeric_signText (negative : Bool) : Numeric (signText negative) := by
  cases negative <;> decide

theorem numeric_toDigits (n : Nat) : Numeric (Nat.toDigits 10 n) :=
  fun c hc => isNumeric_of_isDigit (Decimal.all_isDigit_toDigits n c hc)

theorem numeric_zeros (n : Nat) : Numeric (List.replicate n '0') :=
  fun c hc => isNumeric_of_isDigit (Decimal.all_isDigit_zeros n c hc)

theorem numeric_positionalDigits (keepsPoint : Bool) (d : Digits) :
    Numeric (positionalDigits keepsPoint d) := by
  unfold positionalDigits
  extract_lets ds places padded
  split
  · rw [numeric_append, numeric_append]
    refine ⟨⟨numeric_toDigits d.digits, numeric_zeros _⟩, ?_⟩
    cases keepsPoint <;> decide
  · have hpadded : Numeric padded := numeric_append.mpr ⟨numeric_zeros _, numeric_toDigits d.digits⟩
    rw [numeric_append, numeric_cons]
    exact ⟨fun c hc => hpadded c (List.mem_of_mem_take hc), by decide,
      fun c hc => hpadded c (List.mem_of_mem_drop hc)⟩

theorem numeric_exponentSuffix (signsExponent : Bool) (e : Int) :
    Numeric (exponentSuffix signsExponent e) := by
  unfold exponentSuffix
  rw [numeric_append, numeric_cons]
  refine ⟨⟨by decide, ?_⟩, numeric_toDigits _⟩
  split
  · decide
  · cases signsExponent <;> decide

theorem numeric_exponentDigits (signsExponent : Bool) (d : Digits) :
    Numeric (exponentDigits signsExponent d) := by
  obtain ⟨c, r, hcons⟩ := List.exists_cons_of_ne_nil (Nat.toDigits_ne_nil (b := 10) (n := d.digits))
  have hdigits := numeric_cons.mp (hcons ▸ numeric_toDigits d.digits : Numeric (c :: r))
  rw [Decimal.exponentDigits_eq signsExponent hcons, numeric_append]
  refine ⟨?_, numeric_exponentSuffix signsExponent d.lead⟩
  split
  · exact numeric_cons.mpr ⟨hdigits.1, by decide⟩
  · exact numeric_cons.mpr ⟨hdigits.1, numeric_cons.mpr ⟨by decide, hdigits.2⟩⟩

theorem numeric_render {x : Binary64} (h : x.isFinite = true) :
    Numeric (floatLayout.render x).toList := by
  obtain ⟨d, htext | htext⟩ := floatLayout.render_notation h
  · rw [htext, numeric_append]
    exact ⟨numeric_signText _, numeric_positionalDigits _ d⟩
  · rw [htext, numeric_append]
    exact ⟨numeric_signText _, numeric_exponentDigits _ d⟩

theorem exists_isMark_positionalDigits (d : Digits) :
    ∃ c ∈ positionalDigits true d, isMark c = true := by
  refine ⟨'.', ?_, by decide⟩
  unfold positionalDigits
  dsimp only
  split <;> simp

theorem exists_isMark_exponentDigits (signsExponent : Bool) (d : Digits) :
    ∃ c ∈ exponentDigits signsExponent d, isMark c = true :=
  ⟨'e', by simp [exponentDigits], by decide⟩

theorem exists_isMark_render {x : Binary64} (h : x.isFinite = true) :
    ∃ c ∈ (floatLayout.render x).toList, isMark c = true := by
  obtain ⟨d, htext | htext⟩ := floatLayout.render_notation h
  · obtain ⟨c, hc, hmark⟩ := exists_isMark_positionalDigits d
    exact ⟨c, htext ▸ List.mem_append_right _ hc, hmark⟩
  · obtain ⟨c, hc, hmark⟩ := exists_isMark_exponentDigits floatLayout.signsExponent d
    exact ⟨c, htext ▸ List.mem_append_right _ hc, hmark⟩

theorem toList_toString_int (n : Int) :
    (toString n).toList = signText (decide (n < 0)) ++ Nat.toDigits 10 n.natAbs := by
  rw [Int.toString_eq_repr, Int.repr_eq_if]
  by_cases h : 0 ≤ n
  · rw [if_pos h, Nat.toList_repr, decide_eq_false (by omega), (by omega : n.toNat = n.natAbs)]
    rfl
  · rw [if_neg h, String.toList_append, Nat.toList_repr, decide_eq_true (by omega),
      (by omega : (-n).toNat = n.natAbs)]
    rfl

theorem numeric_toString_int (n : Int) : Numeric (toString n).toList := by
  rw [toList_toString_int, numeric_append]
  exact ⟨numeric_signText _, numeric_toDigits _⟩

theorem isMark_toString_int (n : Int) : ∀ c ∈ (toString n).toList, isMark c = false := by
  rw [toList_toString_int, List.forall_mem_append]
  refine ⟨?_, fun c hc => isMark_of_isDigit (Decimal.all_isDigit_toDigits _ c hc)⟩
  cases decide (n < 0) <;> simp [signText, isMark]

theorem ofChars?_toString_int (n : Int) :
    Numeral.ofChars? (toString n).toList = some ⟨decide (n < 0), n.natAbs, 0, 0⟩ := by
  have hread := Numeral.ofChars?_whole (Decimal.isSign_signText (decide (n < 0))) []
    Nat.toDigits_ne_nil (Decimal.all_isDigit_toDigits n.natAbs) (by simp)
  rw [List.append_nil, Decimal.natOfDigits_toDigits, ← toList_toString_int] at hread
  exact hread

theorem toString_int_inj {n m : Int} (h : (toString n).toList = (toString m).toList) : n = m := by
  have hread := ofChars?_toString_int n
  rw [h, ofChars?_toString_int m] at hread
  simp only [Option.some.injEq, Numeral.mk.injEq, decide_eq_decide] at hread
  omega

theorem toString_int_ne_render (n : Int) {x : Binary64} (h : x.isFinite = true) :
    (toString n).toList ≠ (floatLayout.render x).toList := by
  intro htext
  obtain ⟨c, hc, hmark⟩ := exists_isMark_render h
  rw [isMark_toString_int n c (htext ▸ hc)] at hmark
  cases hmark

def Ends (r : List Char) : Prop := ∀ c ∈ r.head?, isNumeric c = false

theorem ends_nil : Ends [] := by simp [Ends]

theorem ends_cons {c : Char} {r : List Char} (h : isNumeric c = false) : Ends (c :: r) := by
  simpa [Ends] using h

/-- A number reaches as far as it can. -/
theorem numeric_append_inj {s t r q : List Char} (hs : Numeric s) (ht : Numeric t) (hr : Ends r)
    (hq : Ends q) (h : s ++ r = t ++ q) : s = t ∧ r = q := by
  constructor
  · calc s = (s ++ r).takeWhile isNumeric := (Decimal.takeWhile_append_of_stop hs hr).symm
      _ = (t ++ q).takeWhile isNumeric := by rw [h]
      _ = t := Decimal.takeWhile_append_of_stop ht hq
  · calc r = (s ++ r).dropWhile isNumeric := (Decimal.dropWhile_append_of_stop hs hr).symm
      _ = (t ++ q).dropWhile isNumeric := by rw [h]
      _ = q := Decimal.dropWhile_append_of_stop ht hq

end BeanRules.Json
