import BeanRules.Pattern.CharSet

/-!
Patterns as trees. Greediness and capturing decide which match is reported, never whether there is
one, so a tree keeps no trace of greediness and of a capture only that it deepens the nesting.
-/
namespace BeanRules.Pattern

inductive Look where
  | textStart
  | textEnd
  | lineStart
  | lineEnd
  | anyLineStart
  | anyLineEnd
  | boundary
  | notBoundary
  | wordStart
  | wordEnd
  | wordStartHalf
  | wordEndHalf
deriving DecidableEq

inductive Expr where
  | empty
  | char (c : Char)
  | set (s : CharSet)
  | look (l : Look)
  | times (min : Nat) (max : Option Nat) (e : Expr)
  | group (e : Expr)
  | sequence (es : List Expr)
  | choice (es : List Expr)

namespace Expr

def ofSequence : List Expr → Expr
  | [] => empty
  | [e] => e
  | es => sequence es

def ofChoice : List Expr → Expr
  | [e] => e
  | es => choice es

def repeated (min : Nat) (max : Option Nat) (e : Expr) : Expr :=
  if max = some 0 then empty
  else if min = 1 ∧ max = some 1 then e
  else times min max e

def toSet? : Expr → Option CharSet
  | char c => some (.single c)
  | set s => some s
  | _ => none

def toChar? : Expr → Option Char
  | char c => some c
  | _ => none

mutual

def height : Expr → Nat
  | times _ _ e => e.height + 1
  | group e => e.height + 1
  | sequence es => heights es + 1
  | choice es => heights es + 1
  | _ => 0

def heights : List Expr → Nat
  | [] => 0
  | e :: r => max e.height (heights r)

end

mutual

def nullable : Expr → Bool
  | empty => true
  | char _ => false
  | set _ => false
  | look _ => true
  | times min _ e => min == 0 || e.nullable
  | group e => e.nullable
  | sequence es => allNullable es
  | choice es => anyNullable es

def allNullable : List Expr → Bool
  | [] => true
  | e :: r => e.nullable && allNullable r

def anyNullable : List Expr → Bool
  | [] => false
  | e :: r => e.nullable || anyNullable r

end

mutual

/-- The states of an automaton in which every repetition is written out. -/
def states : Expr → Nat
  | times 0 (some 1) e => e.states + 2
  | times 0 none e => e.states + if e.nullable then 3 else 1
  | times n none e => n * e.states + 1
  | times n (some m) e =>
    let once := e.states
    if n = m then n * once else max n 1 * once + (m - n) * (once + 1) + 1
  | group e => e.states + 2
  | sequence es => sumStates es
  | choice es => sumStates es + 2
  | _ => 1

def sumStates : List Expr → Nat
  | [] => 0
  | e :: r => e.states + sumStates r

end

end Expr

def nestingLimit : Nat := 50

/-- Ten mebibytes at 32 bytes a state. -/
def stateLimit : Nat := 10 * 1024 * 1024 / 32

end BeanRules.Pattern
