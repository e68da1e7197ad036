/-!
A reading step returns what it leaves unread together with a proof that this is shorter, so a loop
of such steps ends for the plain reason that the text does. What one step leaves of what another
has left is again left of the whole.
-/
namespace BeanRules.Text

/-- What is left of `s` when at least one character of it was read. -/
structure Rest (s : List Char) where
  text : List Char
  length_lt : text.length < s.length

/-- What is left of `s` when possibly nothing was read. -/
structure Tail (s : List Char) where
  text : List Char
  length_le : text.length ≤ s.length

def Rest.tail {s : List Char} (t : Rest s) : Tail s := ⟨t.text, Nat.le_of_lt t.length_lt⟩

instance {s : List Char} : Coe (Rest s) (Tail s) := ⟨Rest.tail⟩

namespace Tail

variable {s r : List Char}

def whole (s : List Char) : Tail s := ⟨s, Nat.le_refl _⟩

def cons (c : Char) (t : Tail r) : Tail (c :: r) := ⟨t.text, Nat.le_succ_of_le t.length_le⟩

def of (h : r.length ≤ s.length) (t : Tail r) : Tail s := ⟨t.text, Nat.le_trans t.length_le h⟩

def andThen (t : Tail s) (u : Tail t.text) : Tail s := of t.length_le u

def dropWhile (p : Char → Bool) (s : List Char) : Tail s :=
  ⟨s.dropWhile p, (List.dropWhile_sublist p).length_le⟩

end Tail

namespace Rest

variable {s r : List Char}

def cons (c : Char) (t : Tail r) : Rest (c :: r) := ⟨t.text, Nat.lt_succ_of_le t.length_le⟩

def of (h : r.length < s.length) (t : Tail r) : Rest s := ⟨t.text, Nat.lt_of_le_of_lt t.length_le h⟩

def ofTail (h : r.length ≤ s.length) (t : Rest r) : Rest s :=
  ⟨t.text, Nat.lt_of_lt_of_le t.length_lt h⟩

def andThen (t : Rest s) (u : Tail t.text) : Rest s := of t.length_lt u

end Rest

end BeanRules.Text
