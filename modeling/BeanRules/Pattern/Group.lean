import BeanRules.Pattern.Escape
import BeanRules.Text.Letter

/-!
What stands between the opening parenthesis of a group and its body: flags, a name, or nothing.
-/
namespace BeanRules.Pattern

open Text (Rest Tail isLetter isNumeral)

/-- A directive sets flags for the rest of the enclosing group; the others open a group. -/
inductive Opening where
  | directive (flags : Flags)
  | plain (flags : Flags)
  | capture (name : Option String)

structure FlagRun where
  flags : Flags
  negated : Bool
  dangling : Bool
  seen : List Char

/-- One letter sets a flag, or clears it behind a dash. Greediness and Unicode letters change
nothing. -/
def Flags.assign? (f : Flags) (on : Bool) : Char → Option Flags
  | 'i' => some { f with ignoreCase := on }
  | 'm' => some { f with multiLine := on }
  | 's' => some { f with dotAll := on }
  | 'R' => some { f with anyLineEnd := on }
  | 'x' => some { f with verbose := on }
  | 'U' => some f
  | 'u' => some f
  | _ => none

def FlagRun.add (run : FlagRun) (c : Char) : Except Fault FlagRun :=
  if c = '-' then
    if run.negated then .error .flagNegatedTwice
    else .ok { run with negated := true, dangling := true }
  else
    match run.flags.assign? (!run.negated) c with
    | none => .error .flagUnknown
    | some flags =>
      if run.seen.contains c then .error .flagTwice
      else .ok { run with flags, dangling := false, seen := c :: run.seen }

def groupFlags (run : FlagRun) : (s : List Char) → Except Fault (Opening × Tail s)
  | [] => .error .flagsEnd
  | c :: r =>
    if c = ':' ∨ c = ')' then
      if run.dangling then .error .flagNegationDangles
      else if c = ':' then .ok (.plain run.flags, .cons c (.whole r))
      else .ok (.directive run.flags, .cons c (.whole r))
    else do
      let run ← run.add c
      let (opening, t) ← groupFlags run r
      return (opening, .cons c t)

def isNameStart (c : Char) : Bool := c == '_' || isLetter c

def isNamePart (c : Char) : Bool :=
  c == '_' || c == '.' || c == '[' || c == ']' || isLetter c || isNumeral c

def groupName (allowed : Char → Bool) : (s : List Char) → Except Fault (List Char × Tail s)
  | [] => .error .nameUnclosed
  | c :: r =>
    if c = '>' then .ok ([], .cons c (.whole r))
    else if allowed c then do
      let (name, t) ← groupName isNamePart r
      return (c :: name, .cons c t)
    else .error .nameInvalid

def namedOpening (taken : List String) (s : List Char) : Except Fault (Opening × Tail s) := do
  if s = [] then .error .nameMissing
  else
    let (name, rest) ← groupName isNameStart s
    let name := String.ofList name
    if name = "" then .error .nameEmpty
    else if taken.contains name then .error .nameTwice
    else return (.capture (some name), rest)

/-- The opening of a group, read from behind its parenthesis; `taken` are the names in use. -/
def groupOpening (f : Flags) (taken : List String) (s : List Char) :
    Except Fault (Opening × Tail s) :=
  match h : f.skip s with
  | '?' :: '=' :: _ => .error .lookAround
  | '?' :: '!' :: _ => .error .lookAround
  | '?' :: '<' :: '=' :: _ => .error .lookAround
  | '?' :: '<' :: '!' :: _ => .error .lookAround
  | '?' :: 'P' :: '<' :: r => do
    let (opening, t) ← namedOpening taken r
    return (opening, f.afterSkip h (.cons '?' (.cons 'P' (.cons '<' t))))
  | '?' :: '<' :: r => do
    let (opening, t) ← namedOpening taken r
    return (opening, f.afterSkip h (.cons '?' (.cons '<' t)))
  | ['?'] => .error .groupQuestionEnds
  | '?' :: ')' :: _ => .error .flagsEmpty
  | '?' :: r => do
    let (opening, t) ← groupFlags ⟨f, false, false, []⟩ r
    return (opening, f.afterSkip h (.cons '?' t))
  | _ => .ok (.capture none, f.skipped s)

end BeanRules.Pattern
