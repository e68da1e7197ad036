import BeanRules.Pattern.Bracket
import BeanRules.Pattern.Count
import BeanRules.Pattern.Group

/-!
Reading a pattern. Groups that are still open are kept on a stack, so nesting costs no recursion
and its depth is the height of the stack.
-/
namespace BeanRules.Pattern

open Text (Rest Tail)

/-- The alternatives of one group so far, latest first; of the last one, its parts, latest first. -/
structure Level where
  finished : List Expr
  parts : List Expr

namespace Level

def start : Level := ⟨[], []⟩

def push (l : Level) (e : Expr) : Level := { l with parts := e :: l.parts }

def endBranch (l : Level) : Level := ⟨.ofSequence l.parts.reverse :: l.finished, []⟩

def close (l : Level) : Expr := .ofChoice l.endBranch.finished.reverse

end Level

/-- An open group: what stands before it, whether it captures, and the flags to return to. -/
structure Frame where
  before : Level
  captures : Bool
  flags : Flags

def atom (f : Flags) (c : Char) (r : List Char) : Except Fault (Expr × Tail r) :=
  match c with
  | '\\' => (escape f r).map fun (e, t) => (e, t.tail)
  | '[' => bracket f r
  | '.' => .ok (f.dot, .whole r)
  | '^' => .ok (f.lineStart, .whole r)
  | '$' => .ok (f.lineEnd, .whole r)
  | c => .ok (f.literal c, .whole r)

def repetition? (c : Char) : Option (Nat × Option Nat) :=
  match c with
  | '?' => some (0, some 1)
  | '*' => some (0, none)
  | '+' => some (1, none)
  | _ => none

def readParts (stack : List Frame) (l : Level) (f : Flags) (taken : List String)
    (s : List Char) : Except Fault Expr :=
  match _h : f.skip s with
  | [] => if stack.isEmpty then .ok l.close else .error .groupUnclosed
  | '(' :: r => do
    let (opening, t) ← groupOpening f taken r
    let enter (captures : Bool) (inside : Flags) (taken : List String) : Except Fault Expr :=
      if stack.length < nestingLimit then
        readParts (⟨l, captures, f⟩ :: stack) .start inside taken t.text
      else .error .tooNested
    match opening with
    | .directive flags => readParts stack l flags taken t.text
    | .plain flags => enter false flags taken
    | .capture none => enter true f taken
    | .capture (some name) => enter true f (name :: taken)
  | ')' :: r =>
    match stack with
    | [] => .error .groupUnopened
    | frame :: outer =>
      let body := l.close
      let part := if frame.captures then .group body else body
      readParts outer (frame.before.push part) frame.flags taken r
  | '|' :: r => readParts stack l.endBranch f taken r
  | '\x7b' :: r =>
    match l.parts with
    | [] => .error .countNothing
    | e :: before => do
      let ((min, max), t) ← counts f r
      readParts stack { l with parts := .repeated min max e :: before } f taken t.text
  | c :: r =>
    match repetition? c with
    | some (min, max) =>
      match l.parts with
      | [] => .error .repeatNothing
      | e :: before =>
        let t := dropLazy r
        readParts stack { l with parts := .repeated min max e :: before } f taken t.text
    | none => do
      let (e, t) ← atom f c r
      readParts stack (l.push e) f taken t.text
termination_by s.length
decreasing_by all_goals grind [Rest, Tail, → Flags.length_lt_of_skip]

/-- The tree of a pattern that is neither too deep nor too large. -/
def read (s : String) : Except Fault Expr := do
  let e ← readParts [] .start .unset [] s.toList
  if nestingLimit < e.height then .error .tooNested
  else if stateLimit < e.states then .error .tooLarge
  else return e

end BeanRules.Pattern
