/-!
Classes of characters are given by the bounds at which membership changes, so a table holds one
number for each border of the class and a look-up counts borders.
-/
namespace BeanRules.Text

/-- Ascending code points, each the first one on the other side of a border of the class. -/
structure CharClass where
  bounds : List Nat

namespace CharClass

/-- A character is inside when an odd number of borders lie at or before it. -/
def mem (cls : CharClass) (c : Char) : Bool :=
  (cls.bounds.takeWhile (· ≤ c.toNat)).length % 2 == 1

def span (lo hi : Char) : CharClass := ⟨[lo.toNat, hi.toNat + 1]⟩

theorem mem_span (lo hi c : Char) :
    (span lo hi).mem c = (decide (lo.toNat ≤ c.toNat) && decide (c.toNat ≤ hi.toNat)) := by
  by_cases h₁ : lo.toNat ≤ c.toNat <;> by_cases h₂ : hi.toNat + 1 ≤ c.toNat <;>
    simp [mem, span, h₁, h₂] <;> omega

end CharClass

end BeanRules.Text
