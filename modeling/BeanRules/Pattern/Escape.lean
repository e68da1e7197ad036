import BeanRules.Pattern.Fault
import BeanRules.Pattern.Flags

/-!
Escape sequences, read from behind the backslash.
-/
namespace BeanRules.Pattern

open Text (Rest Tail)

def hexDigit? (c : Char) : Option Nat :=
  if c.isDigit then some (c.toNat - '0'.toNat)
  else if 'a' ≤ c ∧ c ≤ 'f' then some (c.toNat - 'a'.toNat + 10)
  else if 'A' ≤ c ∧ c ≤ 'F' then some (c.toNat - 'A'.toNat + 10)
  else none

def scalar? (n : Nat) : Option Char := if n.isValidChar then some (Char.ofNat n) else none

def fixedHex (f : Flags) : Nat → Nat → (s : List Char) → Except Fault (Nat × Tail s)
  | 0, acc, s => .ok (acc, .whole s)
  | _ + 1, _, [] => .error .hexFixedEnds
  | n + 1, acc, c :: r =>
    match hexDigit? c with
    | none => .error .hexFixedDigit
    | some d => do
      let (v, t) ← fixedHex f n (16 * acc + d) (f.skip r)
      return (v, .cons c ((f.skipped r).andThen t))

def bracedHex (f : Flags) (acc : Option Nat) (s : List Char) : Except Fault (Nat × Tail s) :=
  match s with
  | [] => .error .hexBraceEnds
  | c :: r =>
    if c = '\x7d' then
      match acc with
      | none => .error .hexBraceEmpty
      | some v => .ok (v, .cons c (f.skipped r))
    else
      match hexDigit? c with
      | none => .error .hexBraceDigit
      | some d => do
        let (v, t) ← bracedHex f (some (16 * acc.getD 0 + d)) (f.skip r)
        return (v, .cons c ((f.skipped r).andThen t))
termination_by s.length
decreasing_by have := f.length_skip_le r; simp; omega

/-- A code point in `width` digits, or in braces in any number of them. -/
def codePoint (f : Flags) (width : Nat) (s : List Char) : Except Fault (Expr × Tail s) :=
  match h : f.skip s with
  | [] => .error .hexEnds
  | '\x7b' :: r => do
    let (v, t) ← bracedHex f none (f.skip r)
    match scalar? v with
    | none => .error .hexBraceInvalid
    | some c => .ok (f.literal c, f.afterSkip h (.cons '\x7b' ((f.skipped r).andThen t)))
  | r => do
    let (v, t) ← fixedHex f width 0 r
    match scalar? v with
    | none => .error .hexFixedInvalid
    | some c => .ok (f.literal c, f.afterSkip h t)

def isBoundaryLetter (c : Char) : Bool := c.isAlpha || c == '-'

def boundaryName (f : Flags) (s : List Char) : List Char × Tail s :=
  match s with
  | [] => ([], .whole [])
  | c :: r =>
    if isBoundaryLetter c then
      let (name, t) := boundaryName f (f.skip r)
      (c :: name, .cons c ((f.skipped r).andThen t))
    else ([], .whole (c :: r))
termination_by s.length
decreasing_by have := f.length_skip_le r; simp; omega

def boundary? : String → Option Look
  | "start" => some .wordStart
  | "end" => some .wordEnd
  | "start-half" => some .wordStartHalf
  | "end-half" => some .wordEndHalf
  | _ => none

/-- A brace behind `\b` opens the name of a special boundary when a letter or dash follows it, and
otherwise a repetition of the plain boundary. -/
def boundary (f : Flags) (s : List Char) : Except Fault (Expr × Tail s) :=
  match s with
  | '\x7b' :: r =>
    match h : f.skip r with
    | [] => .error .boundaryEnds
    | c :: t =>
      if isBoundaryLetter c then
        match boundaryName f (c :: t) with
        | (name, ⟨'\x7d' :: u, hu⟩) =>
          match boundary? (String.ofList name) with
          | none => .error .boundaryUnknown
          | some l =>
            let u := Tail.of hu (.cons '\x7d' (.whole u))
            .ok (.look l, .cons '\x7b' (f.afterSkip h u))
        | _ => .error .boundaryUnclosed
      else .ok (.look .boundary, .whole ('\x7b' :: r))
  | s => .ok (.look .boundary, .whole s)

def letterEscape? (f : Flags) : Char → Option Expr
  | 'd' => some (.set .digit)
  | 'D' => some (.set CharSet.digit.compl)
  | 's' => some (.set .space)
  | 'S' => some (.set CharSet.space.compl)
  | 'w' => some (.set .word)
  | 'W' => some (.set CharSet.word.compl)
  | 'a' => some (f.literal '\x07')
  | 'f' => some (f.literal '\x0c')
  | 't' => some (f.literal '\t')
  | 'n' => some (f.literal '\n')
  | 'r' => some (f.literal '\r')
  | 'v' => some (f.literal '\x0b')
  | 'A' => some (.look .textStart)
  | 'z' => some (.look .textEnd)
  | 'B' => some (.look .notBoundary)
  | '<' => some (.look .wordStart)
  | '>' => some (.look .wordEnd)
  | _ => none

/-- Every other ASCII character that is neither a letter nor a digit stands for itself. -/
def escape (f : Flags) (s : List Char) : Except Fault (Expr × Rest s) :=
  match s with
  | [] => .error .escapeEnds
  | c :: r => do
    let hex (width : Nat) : Except Fault (Expr × Rest (c :: r)) := do
      let (e, t) ← codePoint f width r
      return (e, .cons c t)
    if c.isDigit then .error .backreference
    else if c = 'p' ∨ c = 'P' then .error .unicodeClass
    else if c = 'x' then hex 2
    else if c = 'u' then hex 4
    else if c = 'U' then hex 8
    else if c = 'b' then
      let (e, t) ← boundary f r
      return (e, .cons c t)
    else
      match letterEscape? f c with
      | some e => .ok (e, .cons c (.whole r))
      | none =>
        if c.toNat < 128 ∧ ¬c.isAlpha then .ok (f.literal c, .cons c (.whole r))
        else .error .escapeUnknown

end BeanRules.Pattern
