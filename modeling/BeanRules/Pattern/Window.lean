import BeanRules.Pattern.Expr

/-!
A text is searched window by window. A window is a stretch of positions that is short enough for a
set of them to be a small number, bit `i` standing for its `i`-th position.
-/
namespace BeanRules.Pattern

structure Place where
  before : Option Char
  after : Option Char

def places (text : List Char) : List Place :=
  List.zipWith Place.mk (none :: text.map some) (text.map some ++ [none])

def windowWidth : Nat := 62

/-- Every position of a window that is not the last one of its text. -/
def wholeWindow : Nat := 1 <<< windowWidth - 1

theorem length_drop_le (l : List Place) : (l.drop (windowWidth - 1)).length ≤ l.length := by
  rw [List.length_drop]
  exact Nat.sub_le _ _

def windows (l : List Place) : List (List Place) :=
  match l with
  | [] => []
  | p :: r => (p :: r.take (windowWidth - 1)) :: windows (r.drop (windowWidth - 1))
termination_by l.length
decreasing_by exact Nat.lt_succ_of_le (length_drop_le r)

theorem flatten_windows (l : List Place) : (windows l).flatten = l := by
  fun_induction windows l with
  | case1 => rfl
  | case2 p r ih => rw [List.flatten_cons, ih, List.cons_append, List.take_append_drop]

def positions (p : Place → Bool) (window : List Place) : Nat :=
  window.foldr (fun place set => 2 * set + (p place).toNat) 0

theorem testBit_positions (p : Place → Bool) (window : List Place) (i : Nat) :
    (positions p window).testBit i = window[i]?.any p := by
  induction window generalizing i with
  | nil => simp [positions]
  | cons place r ih =>
    rw [positions] at ih
    cases i with
    | zero => cases h : p place <;> simp [positions, h]
    | succ i => cases h : p place <;> simp [positions, h, ← ih, Nat.testBit_succ, Nat.mul_add_div]

def without (a b : Nat) : Nat := a ^^^ (a &&& b)

theorem testBit_without (a b i : Nat) :
    (without a b).testBit i = (a.testBit i && !b.testBit i) := by
  rw [without, Nat.testBit_xor, Nat.testBit_and]
  cases a.testBit i <;> cases b.testBit i <;> rfl

def isWordChar (c : Char) : Bool := CharSet.word.mem c

def Look.holds (l : Look) (p : Place) : Bool :=
  let wordBefore := p.before.any isWordChar
  let wordAfter := p.after.any isWordChar
  match l with
  | .textStart => p.before.isNone
  | .textEnd => p.after.isNone
  | .lineStart => p.before.all (· == '\n')
  | .lineEnd => p.after.all (· == '\n')
  | .anyLineStart => p.before.all fun c => c == '\n' || c == '\r' && p.after != some '\n'
  | .anyLineEnd => p.after.all fun c => c == '\r' || c == '\n' && p.before != some '\r'
  | .boundary => wordBefore != wordAfter
  | .notBoundary => wordBefore == wordAfter
  | .wordStart => !wordBefore && wordAfter
  | .wordEnd => wordBefore && !wordAfter
  | .wordStartHalf => !wordBefore
  | .wordEndHalf => !wordAfter

inductive Test where
  | char (c : Char)
  | set (s : CharSet)
  | look (l : Look)
deriving DecidableEq

def Test.passes : Test → Place → Bool
  | char c, p => p.after == some c
  | set s, p => p.after.any s.mem
  | look l, p => l.holds p

end BeanRules.Pattern
