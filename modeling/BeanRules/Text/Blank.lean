import BeanRules.Text.Class

/-!
Blank characters are those with the Unicode property White_Space. Names and decimal numbers are
read without the blanks around them.
-/
namespace BeanRules.Text

def blanks : CharClass := ⟨[0x9, 0xE, 0x20, 0x21, 0x85, 0x86, 0xA0, 0xA1, 0x1680, 0x1681, 0x2000,
  0x200B, 0x2028, 0x202A, 0x202F, 0x2030, 0x205F, 0x2060, 0x3000, 0x3001]⟩

def isBlank (c : Char) : Bool := blanks.mem c

theorem isBlank_of_isWhitespace {c : Char} (h : c.isWhitespace = true) : isBlank c = true := by
  simp only [Char.isWhitespace, Bool.or_eq_true, decide_eq_true_eq] at h
  rcases h with ((rfl | rfl) | rfl) | rfl <;> decide

def trim (s : List Char) : List Char :=
  ((s.dropWhile isBlank).reverse.dropWhile isBlank).reverse

def isBlankText (s : String) : Bool := s.toList.all isBlank

theorem dropWhile_isBlank_eq_nil_iff (s : List Char) :
    s.dropWhile isBlank = [] ↔ s.all isBlank = true := by
  induction s with
  | nil => simp
  | cons c r ih => by_cases h : isBlank c <;> simp [h, ih]

theorem all_dropWhile_isBlank (s : List Char) :
    (s.dropWhile isBlank).all isBlank = s.all isBlank := by
  induction s with
  | nil => rfl
  | cons c r ih => by_cases h : isBlank c <;> simp [h, ih]

theorem trim_eq_nil_iff (s : List Char) : trim s = [] ↔ s.all isBlank = true := by
  rw [trim, List.reverse_eq_nil_iff, dropWhile_isBlank_eq_nil_iff, List.all_reverse,
    all_dropWhile_isBlank]

end BeanRules.Text
