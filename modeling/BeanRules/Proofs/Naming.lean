import BeanRules.Signature
import BeanRules.Text.Blank

/-!
Which names there are, by the characters in them. The checks of the program read tables and
recurse over a text; here a name is described by ranges of code points.
-/
namespace BeanRules

namespace Text

/-- The Unicode property White_Space. -/
def WhiteSpace (c : Char) : Prop :=
  (0x9 ≤ c.toNat ∧ c.toNat ≤ 0xD) ∨ c.toNat = 0x20 ∨ c.toNat = 0x85 ∨ c.toNat = 0xA0 ∨
    c.toNat = 0x1680 ∨ (0x2000 ≤ c.toNat ∧ c.toNat ≤ 0x200A) ∨ c.toNat = 0x2028 ∨
    c.toNat = 0x2029 ∨ c.toNat = 0x202F ∨ c.toNat = 0x205F ∨ c.toNat = 0x3000

/-- The first two borders of a class are those of a range, and the rest is a class of its own. -/
theorem CharClass.mem_cons_cons {lo hi : Nat} {bounds : List Nat} (c : Char) (h : lo ≤ hi)
    (ascending : ∀ b ∈ bounds, hi ≤ b) :
    CharClass.mem ⟨lo :: hi :: bounds⟩ c = true ↔
      (lo ≤ c.toNat ∧ c.toNat < hi) ∨ CharClass.mem ⟨bounds⟩ c = true := by
  unfold CharClass.mem
  by_cases hhi : hi ≤ c.toNat
  · have hlo : lo ≤ c.toNat := by omega
    have hnot : ¬c.toNat < hi := by omega
    simp only [List.takeWhile_cons, hlo, hhi, hnot, decide_true, if_true, List.length_cons,
      and_false, false_or, beq_iff_eq]
    omega
  · have hnone : bounds.takeWhile (· ≤ c.toNat) = [] := by
      cases bounds with
      | nil => rfl
      | cons b rest =>
        have hb : hi ≤ b := ascending b List.mem_cons_self
        apply List.takeWhile_cons_of_neg
        simp only [decide_eq_true_eq]
        omega
    by_cases hlo : lo ≤ c.toNat
    · simp [hlo, hhi, hnone, Nat.lt_of_not_le hhi]
    · simp [hlo, hnone]

theorem isBlank_iff {c : Char} : isBlank c = true ↔ WhiteSpace c := by
  have hnil : CharClass.mem ⟨[]⟩ c = false := rfl
  unfold isBlank blanks WhiteSpace
  repeat rw [CharClass.mem_cons_cons c (by decide) (by decide)]
  rw [hnil]
  simp only [Bool.false_eq_true, or_false]
  omega

theorem isBlankText_iff {s : String} : isBlankText s = true ↔ ∀ c ∈ s.toList, WhiteSpace c := by
  unfold isBlankText
  rw [List.all_eq_true]
  simp only [isBlank_iff]

theorem isBlankText_eq_false_iff {s : String} :
    isBlankText s = false ↔ ∃ c ∈ s.toList, ¬WhiteSpace c := by
  rw [← Bool.not_eq_true, isBlankText_iff]
  simp

end Text

def IdentifierStart (c : Char) : Prop := ('A' ≤ c ∧ c ≤ 'Z') ∨ ('a' ≤ c ∧ c ≤ 'z') ∨ c = '_'

def IdentifierPart (c : Char) : Prop := IdentifierStart c ∨ ('0' ≤ c ∧ c ≤ '9')

def IsIdentifier (s : String) : Prop :=
  ∃ c rest, s.toList = c :: rest ∧ IdentifierStart c ∧ ∀ d ∈ rest, IdentifierPart d

theorem identifierStart_iff {c : Char} :
    (c.isAlpha || c == '_') = true ↔ IdentifierStart c := by
  unfold IdentifierStart Char.isAlpha Char.isUpper Char.isLower
  simp only [Bool.or_eq_true, Bool.and_eq_true, decide_eq_true_eq, beq_iff_eq, or_assoc]
  rfl

theorem identifierPart_iff {c : Char} :
    (c.isAlphanum || c == '_') = true ↔ IdentifierPart c := by
  unfold IdentifierPart
  rw [← identifierStart_iff]
  unfold Char.isAlphanum Char.isDigit
  simp only [Bool.or_eq_true, Bool.and_eq_true, decide_eq_true_eq, or_right_comm]
  rfl

theorem isIdentifier_iff {s : String} : isIdentifier s = true ↔ IsIdentifier s := by
  unfold isIdentifier IsIdentifier
  cases s.toList with
  | nil => simp
  | cons c rest =>
    simp only [Bool.and_eq_true, List.all_eq_true, identifierStart_iff, identifierPart_iff]
    constructor
    · rintro ⟨hstart, hparts⟩
      exact ⟨c, rest, rfl, hstart, hparts⟩
    · rintro ⟨c', rest', h, hstart, hparts⟩
      cases h
      exact ⟨hstart, hparts⟩

end BeanRules
