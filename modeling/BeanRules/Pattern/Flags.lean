import BeanRules.Text.Blank
import BeanRules.Text.Rest
import BeanRules.Pattern.Expr

/-!
Flags change how the pattern after them is read. With `verbose`, blanks and comments between the
parts of a pattern mean nothing.
-/
namespace BeanRules.Pattern

open Text (Tail isBlank)

structure Flags where
  ignoreCase : Bool
  multiLine : Bool
  dotAll : Bool
  anyLineEnd : Bool
  verbose : Bool

def Flags.unset : Flags := ⟨false, false, false, false, false⟩

mutual

def skipLayout : List Char → List Char
  | [] => []
  | c :: r => if isBlank c then skipLayout r else if c = '#' then skipComment r else c :: r

def skipComment : List Char → List Char
  | [] => []
  | c :: r => if c = '\n' then skipLayout r else skipComment r

end

theorem length_skip_le (s : List Char) :
    (skipLayout s).length ≤ s.length ∧ (skipComment s).length ≤ s.length := by
  induction s with
  | nil => simp [skipLayout, skipComment]
  | cons c r ih =>
    rw [skipLayout, skipComment]
    constructor <;> repeat' split
    all_goals grind

namespace Flags

def skip (f : Flags) (s : List Char) : List Char := if f.verbose then skipLayout s else s

theorem length_skip_le (f : Flags) (s : List Char) : (f.skip s).length ≤ s.length := by
  unfold skip; split
  · exact (Pattern.length_skip_le s).1
  · exact Nat.le_refl _

theorem length_lt_of_skip {f : Flags} {s r : List Char} {c : Char} (h : f.skip s = c :: r) :
    r.length < s.length := by
  have := f.length_skip_le s
  grind

def afterSkip {f : Flags} {s r : List Char} (h : f.skip s = r) (t : Tail r) : Tail s :=
  .of (h ▸ f.length_skip_le s) t

def skipped (f : Flags) (s : List Char) : Tail s := ⟨f.skip s, f.length_skip_le s⟩

/-- The character that decides about a dash. Blanks and the sign of a comment are passed over, but
not the text of the comment. -/
def peek? (f : Flags) (s : List Char) : Option Char :=
  if f.verbose then
    match s.dropWhile isBlank with
    | '#' :: r => (r.dropWhile isBlank).head?
    | r => r.head?
  else s.head?

/-- A literal character, which stands for both cases of an ASCII letter where case is ignored. -/
def literal (f : Flags) (c : Char) : Expr :=
  if f.ignoreCase ∧ c.isAlpha then .set (CharSet.single c).anyCase else .char c

def dot (f : Flags) : Expr :=
  let excluded : CharSet :=
    if f.dotAll then .nothing
    else if f.anyLineEnd then .ofRanges [('\r', '\r'), ('\n', '\n')]
    else .single '\n'
  .set excluded.compl

def lineStart (f : Flags) : Expr :=
  .look (if !f.multiLine then .textStart else if f.anyLineEnd then .anyLineStart else .lineStart)

def lineEnd (f : Flags) : Expr :=
  .look (if !f.multiLine then .textEnd else if f.anyLineEnd then .anyLineEnd else .lineEnd)

end Flags

end BeanRules.Pattern
