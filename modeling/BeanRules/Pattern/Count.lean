import BeanRules.Pattern.Fault
import BeanRules.Pattern.Flags

/-!
Counted repetitions, read from behind the opening brace. A question mark behind any repetition asks
for the shortest match, which does not change whether there is one.
-/
namespace BeanRules.Pattern

open Text (Tail isBlank)

def countDigits (f : Flags) (s : List Char) : List Char × Tail s :=
  match s with
  | [] => ([], .whole [])
  | c :: r =>
    if c.isDigit then
      let (ds, t) := countDigits f (f.skip r)
      (c :: ds, .cons c ((f.skipped r).andThen t))
    else ([], .whole (c :: r))
termination_by s.length
decreasing_by have := f.length_skip_le r; simp; omega

def dropBlanks (f : Flags) (s : List Char) : Tail s :=
  match s with
  | [] => .whole []
  | c :: r =>
    if isBlank c then .cons c ((f.skipped r).andThen (dropBlanks f (f.skip r)))
    else .whole (c :: r)
termination_by s.length
decreasing_by have := f.length_skip_le r; simp; omega

def countNumber (f : Flags) (s : List Char) : Except Fault (Nat × Tail s) :=
  let start := Tail.dropWhile isBlank s
  let (ds, t) := countDigits f start.text
  if ds = [] then .error .decimalMissing
  else
    let n := ds.foldl (fun n c => 10 * n + (c.toNat - '0'.toNat)) 0
    if n < UInt32.size then .ok (n, start.andThen (t.andThen (dropBlanks f t.text)))
    else .error .decimalTooLarge

/-- The upper bound behind the lower one: none behind a comma alone, and without a comma the lower
bound itself. -/
def countUpper (f : Flags) (min : Nat) (s : List Char) :
    Except Fault (Option Nat × Tail s) :=
  match s with
  | [] => .error .countMinUnclosed
  | ',' :: r =>
    match h : f.skip r with
    | [] => .error .countCommaUnclosed
    | '\x7d' :: t => .ok (none, .cons ',' (f.afterSkip h (.whole ('\x7d' :: t))))
    | t => do
      let (max, u) ← countNumber f t
      if u.text = [] then .error .countMaxUnclosed
      else return (some max, .cons ',' (f.afterSkip h u))
  | s => .ok (some min, .whole s)

def dropLazy (s : List Char) : Tail s :=
  match s with
  | '?' :: r => .cons '?' (.whole r)
  | s => .whole s

def counts (f : Flags) (s : List Char) : Except Fault ((Nat × Option Nat) × Tail s) := do
  let start := f.skipped s
  if start.text = [] then .error .countUnclosed
  else
    let (min, t) ← countNumber f start.text
    let (max, u) ← countUpper f min t.text
    match start.andThen (t.andThen u) with
    | ⟨'\x7d' :: r, h⟩ =>
      if max.any (· < min) then .error .countReversed
      else return ((min, max), .of h (.cons '\x7d' ((f.skipped r).andThen (dropLazy (f.skip r)))))
    | _ => .error .countNotClosed

end BeanRules.Pattern
